import BoardMigration.Proofs.Store.Database
import BoardMigration.Store.Sink

/-! Rows of a table and their numbers: what a table finds, which number a row gets, and what becomes of
a table when rows are added to it. -/
namespace BoardMigration.Store

open Schema (Table)

namespace Value

theorem fits_int (n : Int) : fits (.int n) = true ↔ minInt ≤ n ∧ n ≤ maxInt := by simp [fits]

@[simp] theorem fits_text (s : String) : fits (.text s) = true := rfl

@[simp] theorem fits_ofText? (s : Option String) : fits (.ofText? s) = true := by cases s <;> rfl

@[simp] theorem fits_ofBool (b : Bool) : fits (.ofBool b) = true := by cases b <;> decide

end Value

namespace Row

/-- Whether a row has all the given values. -/
def meets (row criteria : Row) : Bool := criteria.all fun (column, value) => row.value column == value

theorem meets_iff {row criteria : Row} :
    row.meets criteria = true ↔ ∀ cell ∈ criteria, row.value cell.1 = cell.2 := by
  simp [meets]

theorem fits_value {row : Row} (fits : row.fits = true) (column : String) :
    Value.fits (row.value column) = true := by
  unfold value
  cases found : row.find? (·.1 == column) with
  | none => rfl
  | some cell => exact List.all_eq_true.mp fits cell (List.mem_of_find?_eq_some found)

end Row

namespace StoredTable

variable {t after : StoredTable} {row criteria : Row} {n : Int}

theorem number?_eq_some : number? row = some n ↔ row.value "id" = .int n := by
  unfold number?
  split
  · next m held => simp [held]
  · next other => simpa using other n

theorem mem_numbers : n ∈ t.numbers ↔ ∃ row ∈ t.rows, row.value "id" = .int n := by
  simp [numbers, List.mem_filterMap, number?_eq_some]

theorem fits_of_mem_numbers (fits : ∀ row ∈ t.rows, row.fits = true) (taken : n ∈ t.numbers) :
    minInt ≤ n ∧ n ≤ maxInt := by
  obtain ⟨row, member, held⟩ := mem_numbers.mp taken
  have value := Row.fits_value (fits row member) "id"
  rw [held] at value
  exact (Value.fits_int n).mp value

theorem clashes_number (key : t.shape.key = ["id"]) (held : row.value "id" = .int n) :
    t.clashes row = true ↔ n ∈ t.numbers := by
  simp [clashes, key, held, mem_numbers]

/-- A number for a new row is one of 64 bits. -/
theorem nextNumber_fits (fits : ∀ row ∈ t.rows, row.fits = true) :
    minInt ≤ t.nextNumber ∧ t.nextNumber ≤ maxInt := by
  unfold nextNumber
  split
  · decide
  · next n highest =>
    have taken : n ∈ t.numbers := List.max?_mem highest
    obtain ⟨low, high⟩ := fits_of_mem_numbers fits taken
    split
    · omega
    · cases free : ((List.range (t.rows.length + 1)).map fun (i : Nat) => (i : Int) + 1).find?
          fun m => m ≤ maxInt && !t.numbers.contains m with
      | none => decide
      | some m =>
        have small : m ≤ maxInt := by
          have found := List.find?_some free
          simp only [Bool.and_eq_true, decide_eq_true_eq] at found
          exact found.1
        have positive : 0 < m := by
          obtain ⟨i, -, rfl⟩ := List.mem_map.mp (List.mem_of_find?_eq_some free)
          omega
        have negative : minInt ≤ 0 := by decide
        exact ⟨by simp only [Option.getD_some]; omega, small⟩

/-- There are more numbers from 1 up than there are rows. -/
theorem exists_free (t : StoredTable) : ∃ i ≤ t.rows.length, (i : Int) + 1 ∉ t.numbers := by
  by_contra all
  have taken : (List.range (t.rows.length + 1)).map (fun (i : Nat) => (i : Int) + 1) ⊆ t.numbers := by
    intro m member
    obtain ⟨i, inside, rfl⟩ := List.mem_map.mp member
    by_contra free
    exact all ⟨i, Nat.lt_succ_iff.mp (List.mem_range.mp inside), free⟩
  have distinct : ((List.range (t.rows.length + 1)).map fun (i : Nat) => (i : Int) + 1).Nodup :=
    List.nodup_range.map fun i j same => by omega
  have long := (List.subperm_of_subset distinct taken).length_le
  have short : t.numbers.length ≤ t.rows.length := List.length_filterMap_le _ _
  rw [List.length_map, List.length_range] at long
  omega

theorem nextNumber_free (few : (t.rows.length : Int) < maxInt) : t.nextNumber ∉ t.numbers := by
  unfold nextNumber
  split
  · next none =>
    rw [highest?, List.max?_eq_none_iff] at none
    rw [none]
    exact List.not_mem_nil
  · next n highest =>
    split
    · intro taken
      have below := (List.max?_eq_some_iff.mp highest).2 _ taken
      omega
    · obtain ⟨i, bound, free⟩ := t.exists_free
      generalize found : List.find? _ _ = answer
      cases answer with
      | none =>
        have refused := List.find?_eq_none.mp found _
          (List.mem_map.mpr ⟨i, List.mem_range.mpr (Nat.lt_succ_of_le bound), rfl⟩)
        have small : (i : Int) + 1 ≤ maxInt := by omega
        simp [small, free] at refused
      | some m =>
        have unused := List.find?_some found
        simp only [Bool.and_eq_true, Bool.not_eq_true', List.contains_eq_mem, decide_eq_false_iff_not] at unused
        exact unused.2

/-- A table without a number for another row has as many rows as there are numbers. -/
theorem isFull_eq_false (few : (t.rows.length : Int) < maxInt) : t.isFull = false := by
  rw [isFull, Bool.eq_false_iff, ne_eq, List.contains_iff_mem]
  exact nextNumber_free few

theorem lt_max_succ {numbers : List Int} (taken : n ∈ numbers) : n < numbers.max?.getD 0 + 1 := by
  cases top : numbers.max? with
  | none => simp [List.max?_eq_none_iff.mp top] at taken
  | some m =>
    have below : n ≤ m := (List.max?_eq_some_iff.mp top).2 n taken
    simpa using Int.lt_add_one_of_le below

/-- The number above all that are taken. -/
def above (t : StoredTable) : Int := t.highest?.getD 0 + 1

theorem lt_above (taken : n ∈ t.numbers) : n < t.above := lt_max_succ taken

/-- Whether the highest number is taken, so that there is none above. -/
def Topped (t : StoredTable) : Prop := ∃ n ∈ t.numbers, maxInt ≤ n

theorem above_fits_iff (fits : ∀ row ∈ t.rows, row.fits = true) :
    Value.fits (.int t.above) = true ↔ ¬t.Topped := by
  have low : minInt ≤ t.above := by
    unfold above
    cases top : t.highest? with
    | none => decide
    | some m =>
      have least := (fits_of_mem_numbers fits (List.max?_mem top)).1
      simp only [Option.getD_some]
      omega
  constructor
  · rintro small ⟨n, taken, top⟩
    have under := lt_above taken
    have high := ((Value.fits_int _).mp small).2
    omega
  · intro untopped
    refine (Value.fits_int _).mpr ⟨low, ?_⟩
    unfold above
    cases top : t.highest? with
    | none => decide
    | some m =>
      have under : m < maxInt := by
        by_contra high
        exact untopped ⟨m, List.max?_mem top, Int.not_lt.mp high⟩
      exact Int.add_one_le_of_lt under

theorem above_of_nil (none : t.rows = []) : t.above = 1 := by
  simp [above, highest?, numbers, none]

theorem find?_eq (t : StoredTable) (criteria : Row) :
    t.find? criteria = ((t.rows.filter (Row.meets · criteria)).filterMap number?).min? := rfl

theorem find?_eq_none :
    t.find? criteria = none ↔ ∀ row ∈ t.rows, row.meets criteria = true → number? row = none := by
  simp [find?_eq, List.filterMap_eq_nil_iff]

theorem mem_numbers_of_find? (found : t.find? criteria = some n) : n ∈ t.numbers := by
  obtain ⟨row, member, number⟩ := List.mem_filterMap.mp (List.min?_mem found)
  exact List.mem_filterMap.mpr ⟨row, (List.mem_filter.mp member).1, number⟩

/-- A row that is found is found in any table that has more rows. -/
theorem find?_more (more : t.rows ⊆ after.rows) (found : t.find? criteria ≠ none) :
    after.find? criteria ≠ none := by
  simp only [ne_eq, find?_eq_none, not_forall] at found ⊢
  obtain ⟨row, member, meets, number⟩ := found
  exact ⟨row, more member, meets, number⟩

/-- A row that does not meet the criteria does not count. -/
theorem find?_other (added : after.rows = t.rows ++ [row]) (other : row.meets criteria = false) :
    after.find? criteria = t.find? criteria := by
  simp [find?_eq, added, other]

/-- A row that is the first to meet the criteria is found. -/
theorem find?_first (added : after.rows = t.rows ++ [row]) (missing : t.find? criteria = none)
    (meets : row.meets criteria = true) (held : row.value "id" = .int n) :
    after.find? criteria = some n := by
  have others : (t.rows.filter (Row.meets · criteria)).filterMap number? = [] := by
    rw [List.filterMap_eq_nil_iff]
    intro other member
    exact find?_eq_none.mp missing other (List.mem_filter.mp member).1 (List.mem_filter.mp member).2
  simp [find?_eq, added, meets, others, number?_eq_some.mpr held]

theorem insertIfAbsent_cases (t : StoredTable) (given : Row) :
    (t.lacks (t.complete given) = true ∨ t.clashes (t.complete given) = true) ∧
      t.insertIfAbsent given = (t, false) ∨
    (t.lacks (t.complete given) = false ∧ t.clashes (t.complete given) = false) ∧
      t.insertIfAbsent given = ({ t with rows := t.rows ++ [t.complete given] }, true) := by
  cases lacks : t.lacks (t.complete given) <;> cases clashes : t.clashes (t.complete given) <;>
    simp [insertIfAbsent, lacks, clashes]

theorem above_free (t : StoredTable) : t.above ∉ t.numbers := fun taken => Int.lt_irrefl _ (lt_above taken)

/-- In a table whose rows are known by their numbers, a row that lacks nothing is added unless its number
is taken. -/
theorem insertIfAbsent_numbered (key : t.shape.key = ["id"]) {given : Row}
    (held : (t.complete given).value "id" = .int n) (whole : t.lacks (t.complete given) = false) :
    t.insertIfAbsent given =
      if n ∈ t.numbers then (t, false) else ({ t with rows := t.rows ++ [t.complete given] }, true) := by
  have clashes := clashes_number key held
  rcases t.insertIfAbsent_cases given with ⟨lacking | taken, same⟩ | ⟨⟨-, free⟩, added⟩
  · exact absurd (whole.symm.trans lacking) (by simp)
  · rw [same, if_pos (clashes.mp taken)]
  · rw [added, if_neg (by rw [← clashes, free]; simp)]

theorem defaults_fit {shape : Table} (member : shape ∈ Table.all) :
    ∀ column ∈ shape.columns, Value.fits (column.default?.getD .null) = true := by
  revert member shape
  decide

theorem complete_fits (known : t.shape ∈ Table.all) (fits : ∀ row ∈ t.rows, Row.fits row = true)
    {given : Row} (small : given.fits = true) : Row.fits (t.complete given) = true := by
  have number : Value.fits (.int t.nextNumber) = true :=
    (Value.fits_int _).mpr (nextNumber_fits fits)
  simp only [complete, Row.fits, List.all_map, List.all_eq_true, Function.comp_apply]
  intro column member
  cases found : given.find? (·.1 == column.name) with
  | none =>
    dsimp only
    split
    · exact number
    · exact defaults_fit known column member
  | some cell =>
    dsimp only
    split
    · exact number
    · exact List.all_eq_true.mp small cell (List.mem_of_find?_eq_some found)

theorem insertIfAbsent_fits (known : t.shape ∈ Table.all)
    (fits : ∀ row ∈ t.rows, Row.fits row = true) {given : Row} (small : given.fits = true) :
    ∀ row ∈ (t.insertIfAbsent given).1.rows, Row.fits row = true := by
  rcases t.insertIfAbsent_cases given with ⟨-, same⟩ | ⟨-, added⟩
  · rwa [same]
  · rw [added]
    intro row member
    rcases List.mem_append.mp member with old | new
    · exact fits row old
    · rw [List.mem_singleton.mp new]
      exact complete_fits known fits small

/-- The rows that every board begins with hold small integers only. -/
theorem seeded_fits (full : String → String) {shape : Table} (member : shape ∈ Table.all) :
    ∀ row ∈ (Database.seeded full shape).rows, Row.fits row = true := by
  have kept (seeds : List Schema.Seed) (small : ∀ seed ∈ seeds, Row.fits seed.row = true)
      (t : StoredTable) (known : t.shape ∈ Table.all) (fits : ∀ row ∈ t.rows, Row.fits row = true) :
      ∀ row ∈ (seeds.foldl (fun t seed =>
        if seed.table = shape.name then (t.insertIfAbsent seed.row).1 else t) t).rows,
          Row.fits row = true := by
    induction seeds generalizing t with
    | nil => exact fits
    | cons seed rest ih =>
      rw [List.forall_mem_cons] at small
      rw [List.foldl_cons]
      split
      · exact ih small.2 _ (by rwa [t.insertIfAbsent_shape]) (insertIfAbsent_fits known fits small.1)
      · exact ih small.2 t known fits
  exact kept Schema.seeds (by decide) _ member (by simp)

/-- Rows that bring a number where a table wants one. -/
def Numbered (shape : Table) (given : Row) : Prop :=
  ∀ column ∈ shape.columns, column.kind = .key →
    ∃ n, given.find? (·.1 == column.name) = some (column.name, .int n)

/-- A row that was given to a table is not added again, however many rows have come since. -/
theorem insertIfAbsent_again {given : Row} (numbered : Numbered t.shape given)
    (keyed : t.shape.key ≠ []) (shape : after.shape = t.shape)
    (more : (t.insertIfAbsent given).1.rows ⊆ after.rows) :
    after.insertIfAbsent given = (after, false) := by
  have complete : after.complete given = t.complete given := by
    rw [after.complete_numbered (by rwa [shape]), t.complete_numbered numbered, shape]
  have lacks : after.lacks (after.complete given) = t.lacks (t.complete given) := by
    rw [complete, StoredTable.lacks, StoredTable.lacks, shape]
  have clashes : t.lacks (t.complete given) = false → after.clashes (after.complete given) = true := by
    intro full
    rw [after.clashes_iff (by rwa [shape]), complete, shape, List.mem_map]
    rcases t.insertIfAbsent_cases given with ⟨lacking | taken, same⟩ | ⟨-, added⟩
    · exact absurd (full.symm.trans lacking) (by simp)
    · obtain ⟨row, member, key⟩ := List.mem_map.mp ((t.clashes_iff keyed _).mp taken)
      exact ⟨row, more (by rwa [same]), key⟩
    · exact ⟨t.complete given, more (by simp [added]), rfl⟩
  rcases after.insertIfAbsent_cases given with ⟨-, same⟩ | ⟨⟨whole, free⟩, -⟩
  · exact same
  · rw [lacks] at whole
    exact absurd (free.symm.trans (clashes whole)) (by simp)

end StoredTable
end BoardMigration.Store
