import BoardMigration.Proofs.Store.Again
import BoardMigration.Proofs.Store.AlikeCalls

/-! Two gateways of which one has a category more. The categories that come to both may be numbered apart, and the
forums with them; nothing else tells the two from each other, until both have the category or create their tables
anew. -/
namespace BoardMigration.Store

open Schema (Table)

/-- A row but for the number of its category. -/
def bare (row : Row) : Row := row.filter fun cell => cell.1 != "cat_id"

theorem value_bare (row : Row) {column : String} (other : column ≠ "cat_id") :
    (bare row).value column = row.value column := by
  rw [Row.value, Row.value, bare, List.find?_filter]
  congr 3
  funext cell
  by_cases same : cell.1 = column
  · simp [same, other]
  · simp [same]

theorem number?_bare (row : Row) : StoredTable.number? (bare row) = StoredTable.number? row := by
  rw [StoredTable.number?, StoredTable.number?, value_bare row (by decide)]

theorem meets_bare (row : Row) (name target : String) :
    (bare row).meets (redirectRow name target) = row.meets (redirectRow name target) := by
  simp [redirectRow, Row.meets, value_bare]

/-- Tables of forums that are the same but for the numbers of their categories. -/
structure Twins (t u : StoredTable) : Prop where
  name : t.name = u.name
  shape : t.shape = u.shape
  rows : t.rows.map bare = u.rows.map bare

namespace Twins

variable {t u : StoredTable}

theorem refl (t : StoredTable) : Twins t t := ⟨rfl, rfl, rfl⟩

theorem length (twins : Twins t u) : t.rows.length = u.rows.length := by
  simpa using congrArg List.length twins.rows

theorem numbers (twins : Twins t u) : t.numbers = u.numbers := by
  have bared (rows : List Row) : (rows.map bare).filterMap StoredTable.number? = rows.filterMap StoredTable.number? := by
    rw [List.filterMap_map]
    exact congrArg (List.filterMap · rows) (funext number?_bare)
  rw [StoredTable.numbers, StoredTable.numbers, ← bared, twins.rows, bared]

theorem nextNumber (twins : Twins t u) : t.nextNumber = u.nextNumber := by
  rw [StoredTable.nextNumber, StoredTable.nextNumber, StoredTable.highest?, StoredTable.highest?, twins.numbers,
    twins.length]

theorem above (twins : Twins t u) : t.above = u.above := by
  rw [StoredTable.above, StoredTable.above, StoredTable.highest?, StoredTable.highest?, twins.numbers]

theorem find? (twins : Twins t u) (name target : String) :
    t.find? (redirectRow name target) = u.find? (redirectRow name target) := by
  have bared (rows : List Row) : ((rows.map bare).filter (Row.meets · (redirectRow name target))).filterMap
      StoredTable.number? = (rows.filter (Row.meets · (redirectRow name target))).filterMap StoredTable.number? := by
    have meets : (Row.meets · (redirectRow name target)) ∘ bare = (Row.meets · (redirectRow name target)) :=
      funext fun row => meets_bare row name target
    rw [List.filter_map, List.filterMap_map, meets]
    exact congrArg (List.filterMap · _) (funext number?_bare)
  rw [StoredTable.find?_eq, StoredTable.find?_eq, ← bared, twins.rows, bared]

theorem complete (twins : Twins t u) (f : Forum) (n m : Int) :
    bare (t.complete (forumRow f n)) = bare (u.complete (forumRow f m)) := by
  rw [bare, bare, StoredTable.complete, StoredTable.complete, List.filter_map, List.filter_map, twins.nextNumber,
    twins.shape]
  refine List.map_congr_left fun column member => ?_
  have other : column.name ≠ "cat_id" := by simpa using (List.mem_filter.mp member).2
  have found : (forumRow f n).find? (·.1 == column.name) = (forumRow f m).find? (·.1 == column.name) := by
    simp [forumRow, List.find?_append, other.symm]
  rw [found]

/-- A forum is added whatever the number of its category. -/
theorem insertIfAbsent (twins : Twins t u) (shape : t.shape = Table.forums) (f : Forum) (n m : Int) :
    Twins (t.insertIfAbsent (forumRow f n)).1 (u.insertIfAbsent (forumRow f m)).1 ∧
      (t.insertIfAbsent (forumRow f n)).2 = (u.insertIfAbsent (forumRow f m)).2 := by
  have also := twins.shape.symm.trans shape
  have row := StoredTable.complete_forumRow shape f n
  have other := StoredTable.complete_forumRow also f m
  rw [StoredTable.insertIfAbsent_numbered (by rw [shape]; rfl) row.id row.whole,
    StoredTable.insertIfAbsent_numbered (by rw [also]; rfl) other.id other.whole, twins.nextNumber, twins.numbers]
  split
  · exact ⟨twins, rfl⟩
  · refine ⟨⟨twins.name, twins.shape, ?_⟩, rfl⟩
    rw [List.map_append, List.map_append, List.map_singleton, List.map_singleton, twins.rows, twins.complete f n m]

end Twins

theorem StoredTable.find?_category {t : StoredTable} (shape : t.shape = Table.categories) (free : t.isFull = false)
    {key : CategoryKey} (missing : t.find? (Sink.categoryRow key) = none) (other : CategoryKey) :
    (t.insertIfAbsent (Sink.categoryRow key)).1.find? (Sink.categoryRow other) =
      if other = key then some t.nextNumber else t.find? (Sink.categoryRow other) := by
  rw [insertIfAbsent_category shape free]
  split
  · next same =>
    subst same
    exact find?_first rfl missing (by rw [meets_categoryEntry, decide_eq_true rfl]) rfl
  · next differs => exact find?_other rfl (by rw [meets_categoryEntry, decide_eq_false (Ne.symm differs)])

theorem StoredTable.length_category {t : StoredTable} (shape : t.shape = Table.categories) (free : t.isFull = false)
    (key : CategoryKey) : (t.insertIfAbsent (Sink.categoryRow key)).1.rows.length = t.rows.length + 1 := by
  rw [insertIfAbsent_category shape free, List.length_append]
  rfl

/-- Tables of categories of which the first has a category that the second may be without. The categories of `base`
have the same numbers in both. -/
structure Richer (base : StoredTable) (key : CategoryKey) (t u : StoredTable) : Prop where
  present : t.find? (Sink.categoryRow key) ≠ none
  missing_iff : ∀ other, other ≠ key →
    (t.find? (Sink.categoryRow other) = none ↔ u.find? (Sink.categoryRow other) = none)
  based : ∀ other n, base.find? (Sink.categoryRow other) = some n →
    t.find? (Sink.categoryRow other) = some n ∧ u.find? (Sink.categoryRow other) = some n
  length : t.rows.length = u.rows.length + if u.find? (Sink.categoryRow key) = none then 1 else 0

namespace Richer

variable {base t u : StoredTable} {key : CategoryKey}

theorem added (shape : base.shape = Table.categories) (free : base.isFull = false)
    (missing : base.find? (Sink.categoryRow key) = none) :
    Richer base key (base.insertIfAbsent (Sink.categoryRow key)).1 base := by
  have found := StoredTable.find?_category shape free missing
  refine ⟨by simp [found], fun other differs => by rw [found, if_neg differs], fun other n stored => ⟨?_, stored⟩, ?_⟩
  · rw [found, if_neg]
    · exact stored
    · rintro rfl
      rw [missing] at stored
      cases stored
  · rw [StoredTable.length_category shape free, if_pos missing]

/-- Another category comes to both. -/
theorem both (richer : Richer base key t u) (left : t.shape = Table.categories) (right : u.shape = Table.categories)
    (room : t.isFull = false) (free : u.isFull = false) {other : CategoryKey} (differs : other ≠ key)
    (missing : u.find? (Sink.categoryRow other) = none) :
    Richer base key (t.insertIfAbsent (Sink.categoryRow other)).1 (u.insertIfAbsent (Sink.categoryRow other)).1 := by
  have first := StoredTable.find?_category left room ((richer.missing_iff other differs).mpr missing)
  have second := StoredTable.find?_category right free missing
  constructor
  · rw [first, if_neg differs.symm]
    exact richer.present
  · intro third apart
    rw [first, second]
    split
    · simp
    · exact richer.missing_iff third apart
  · intro third n stored
    have apart : third ≠ other := by
      rintro rfl
      rw [(richer.based third n stored).2] at missing
      cases missing
    rw [first, second, if_neg apart, if_neg apart]
    exact richer.based third n stored
  · rw [StoredTable.length_category left room, StoredTable.length_category right free, second, if_neg differs.symm,
      richer.length]
    omega

/-- The category comes to the second table as well. -/
theorem caught_up (richer : Richer base key t u) (right : u.shape = Table.categories) (free : u.isFull = false)
    (missing : u.find? (Sink.categoryRow key) = none) :
    Richer base key t (u.insertIfAbsent (Sink.categoryRow key)).1 := by
  have second := StoredTable.find?_category right free missing
  constructor
  · exact richer.present
  · intro other differs
    rw [second, if_neg differs]
    exact richer.missing_iff other differs
  · intro other n stored
    have apart : other ≠ key := by
      rintro rfl
      rw [(richer.based other n stored).2] at missing
      cases missing
    rw [second, if_neg apart]
    exact richer.based other n stored
  · rw [StoredTable.length_category right free, second, if_pos rfl, if_neg (by simp), richer.length, if_pos missing]

end Richer

namespace Sink

/-- Two gateways to tables that are the same but for a category more in the first, and for the numbers of the
categories that `base` is without. -/
structure Beside (base : StoredTable) (key : CategoryKey) (start : String) (a b : Sink) : Prop where
  isOpen : a.isOpen = b.isOpen
  owner : a.tablePrefix = b.tablePrefix
  left : a.Orderly start
  right : b.Orderly start
  categories : ∃ t u, a.database.table? (start ++ "categories") = some t ∧
    b.database.table? (start ++ "categories") = some u ∧ Richer base key t u
  forums : Option.Rel Twins (a.database.table? (start ++ "forums")) (b.database.table? (start ++ "forums"))
  others : ∀ name, foldName name ≠ foldName (start ++ "categories") → foldName name ≠ foldName (start ++ "forums") →
    a.database.table? name = b.database.table? name

/-- Whether there is room for two more categories. -/
def Roomy (s : Sink) : Prop := ((s.database.rowsOf s.tablePrefix "categories").length : Int) + 1 < maxInt

/-- Answers to one question for the number of a category and whether it was created. -/
inductive Numbered (base : StoredTable) (key other : CategoryKey) :
    Except Obstacle (Int × Bool) → Except Obstacle (Int × Bool) → Prop
  | refused (obstacle : Obstacle) : Numbered base key other (.error obstacle) (.error obstacle)
  | answered {n m : Int} {first second : Bool}
      (created : first = second ∨ other = key ∧ first = false ∧ second = true)
      (number : ∀ i, base.find? (categoryRow other) = some i → n = m) :
      Numbered base key other (.ok (n, first)) (.ok (m, second))

end Sink

/-- Answers of two gateways to a call. They are the same, but a category that the first has is created by the second
only, categories that `base` is without may have other numbers, and there may be one category less to count. -/
inductive Answer.Corresponds (tablePrefix : String) (base : StoredTable) (key : CategoryKey) :
    Call → Answer → Answer → Prop
  | same (call : Call) (answer : Answer) : Corresponds tablePrefix base key call answer answer
  | created {c : Category} (same : (c.name, c.position) = key) :
      Corresponds tablePrefix base key (.operation (.insert (.category c))) (.inserted (.ok false)) (.inserted (.ok true))
  | renumbered {name : String} {position n m : Int}
      (fresh : base.find? (Sink.categoryRow (name, position)) = none) :
      Corresponds tablePrefix base key (.operation (.categoryId name position)) (.category (.ok n)) (.category (.ok m))
  | counted {name full : String} {n : Nat} (resolved : resolveName tablePrefix .count name = .ok full)
      (same : foldName full = foldName base.name) :
      Corresponds tablePrefix base key (.count name) (.counted (.ok (n + 1))) (.counted (.ok n))

namespace Sink

namespace Beside

variable {base : StoredTable} {key : CategoryKey} {start : String} {a b a' b' : Sink}

theorem folded_apart (start : String) {name other : String} (known : name ∈ Table.names) (also : other ∈ Table.names)
    (differs : name ≠ other) : foldName (start ++ name) ≠ foldName (start ++ other) :=
  fun same => differs (Database.apart_start start name known other also same)

theorem forums_apart (start : String) : foldName (start ++ "forums") ≠ foldName (start ++ "categories") :=
  folded_apart start (by decide) (by decide) (by decide)

theorem alike (beside : Beside base key start a b) (first : Alike a a') (second : Alike b b')
    (left : a'.Orderly start) (right : b'.Orderly start) : Beside base key start a' b' where
  isOpen := first.isOpen.symm.trans (beside.isOpen.trans second.isOpen)
  owner := first.tablePrefix.symm.trans (beside.owner.trans second.tablePrefix)
  left := left
  right := right
  categories := by
    rw [← first.tables, ← second.tables]
    exact beside.categories
  forums := by
    rw [← first.tables, ← second.tables]
    exact beside.forums
  others := by
    intro name apart elsewhere
    rw [← first.tables, ← second.tables]
    exact beside.others name apart elsewhere

section Created

variable {t u : StoredTable} (beside : Beside base key start a b)
  (there : b.database.table? (start ++ "categories") = some u) (shape : u.shape = Table.categories)
  (free : u.isFull = false)

include beside there shape free

/-- The second gateway gets the category. -/
theorem caught_up (here : a.database.table? (start ++ "categories") = some t) (richer : Richer base key t u)
    (missing : u.find? (categoryRow key) = none) {n : Int}
    (right : (Sink.remember { b with
      database := b.database.replace (u.insertIfAbsent (categoryRow key)).1 } key n).Orderly start) :
    Beside base key start a (Sink.remember { b with
      database := b.database.replace (u.insertIfAbsent (categoryRow key)).1 } key n) where
  isOpen := beside.isOpen
  owner := beside.owner
  left := beside.left
  right := right
  categories := ⟨t, _, here, Database.table?_added there _, richer.caught_up shape free missing⟩
  forums := by
    change Option.Rel Twins _ ((b.database.replace _).table? _)
    rw [Database.table?_inserted there, if_neg (forums_apart start)]
    exact beside.forums
  others := by
    intro name apart elsewhere
    change _ = (b.database.replace _).table? _
    rw [Database.table?_inserted there, if_neg apart]
    exact beside.others name apart elsewhere

/-- Both gateways get another category. -/
theorem both (here : a.database.table? (start ++ "categories") = some t) (richer : Richer base key t u)
    (shapeLeft : t.shape = Table.categories) (room : t.isFull = false) {other : CategoryKey} (differs : other ≠ key)
    (missing : u.find? (categoryRow other) = none) {n m : Int}
    (left : (Sink.remember { a with
      database := a.database.replace (t.insertIfAbsent (categoryRow other)).1 } other n).Orderly start)
    (right : (Sink.remember { b with
      database := b.database.replace (u.insertIfAbsent (categoryRow other)).1 } other m).Orderly start) :
    Beside base key start
      (Sink.remember { a with database := a.database.replace (t.insertIfAbsent (categoryRow other)).1 } other n)
      (Sink.remember { b with database := b.database.replace (u.insertIfAbsent (categoryRow other)).1 } other m) where
  isOpen := beside.isOpen
  owner := beside.owner
  left := left
  right := right
  categories := ⟨_, _, Database.table?_added here _, Database.table?_added there _,
    richer.both shapeLeft shape room free differs missing⟩
  forums := by
    have apart := forums_apart start
    change Option.Rel Twins ((a.database.replace _).table? _) ((b.database.replace _).table? _)
    rw [Database.table?_inserted here, Database.table?_inserted there, if_neg apart, if_neg apart]
    exact beside.forums
  others := by
    intro name apart elsewhere
    change (a.database.replace _).table? _ = (b.database.replace _).table? _
    rw [Database.table?_inserted here, Database.table?_inserted there, if_neg apart, if_neg apart]
    exact beside.others name apart elsewhere

end Created

theorem resolveCategory (beside : Beside base key start a b) (opened : b.isOpen = true) (room : b.Roomy)
    (other : CategoryKey) :
    Numbered base key other (a.resolveCategory other).1 (b.resolveCategory other).1 ∧
      Beside base key start (a.resolveCategory other).2 (b.resolveCategory other).2 := by
  have first := beside.left.regular (beside.isOpen.trans opened)
  have second := beside.right.regular opened
  obtain ⟨t, u, here, there, richer⟩ := beside.categories
  rw [Roomy, beside.right.rowsOf (by decide) there] at room
  have longer := richer.length
  have roomLeft : (t.rows.length : Int) < maxInt := by
    split at longer <;> omega
  have roomRight : (u.rows.length : Int) < maxInt := by omega
  have shapeLeft := (first.tables _ categories_mem.1 t here).1
  have shapeRight := (second.tables _ categories_mem.1 u there).1
  have freeRight := StoredTable.isFull_eq_false roomRight
  have left := first.categorizes here roomLeft other
  have right := second.categorizes there roomRight other
  have afterLeft := (first.resolveCategory other).regular.orderly
  have afterRight := (second.resolveCategory other).regular.orderly
  generalize a.resolveCategory other = one at left afterLeft ⊢
  generalize b.resolveCategory other = two at right afterRight ⊢
  cases left with
  | wide wide =>
    cases right with
    | wide => exact ⟨.refused _, beside⟩
    | found small => exact absurd (wide.symm.trans small) (by decide)
    | created small => exact absurd (wide.symm.trans small) (by decide)
  | @found n _ small found still =>
    cases right with
    | wide wide => exact absurd (wide.symm.trans small) (by decide)
    | @found m _ _ also stays =>
      refine ⟨.answered (.inl rfl) fun i stored => ?_, beside.alike still stays afterLeft afterRight⟩
      obtain ⟨one, two⟩ := richer.based other i stored
      exact (Option.some.inj (found.symm.trans one)).trans (Option.some.inj (also.symm.trans two)).symm
    | created _ missing =>
      have same : other = key := by
        by_contra differs
        rw [(richer.missing_iff other differs).mpr missing] at found
        cases found
      subst same
      refine ⟨.answered (.inr ⟨rfl, rfl, rfl⟩) fun i stored => ?_, ?_⟩
      · rw [(richer.based other i stored).2] at missing
        cases missing
      · exact (beside.caught_up there shapeRight freeRight here richer missing afterRight).alike still (.refl _)
          afterLeft afterRight
  | created small missing =>
    have differs : other ≠ key := by
      rintro rfl
      exact richer.present missing
    have also := (richer.missing_iff other differs).mp missing
    cases right with
    | wide wide => exact absurd (wide.symm.trans small) (by decide)
    | found _ found => exact absurd (also.symm.trans found) (by simp)
    | created =>
      refine ⟨.answered (.inl rfl) fun i stored => ?_, ?_⟩
      · rw [(richer.based other i stored).2] at also
        cases also
      · exact beside.both there shapeRight freeRight here richer shapeLeft (StoredTable.isFull_eq_false roomLeft) differs
          also afterLeft afterRight

/-- One row goes into the same table of both gateways. -/
theorem inserted (beside : Beside base key start a b) {name : String} (known : name ∈ Table.names)
    (categories : name ≠ "categories") (forums : name ≠ "forums") {t : StoredTable}
    (there : b.database.table? (start ++ name) = some t) (row : Row)
    (left : Orderly { a with database := a.database.replace (t.insertIfAbsent row).1 } start)
    (right : Orderly { b with database := b.database.replace (t.insertIfAbsent row).1 } start) :
    Beside base key start { a with database := a.database.replace (t.insertIfAbsent row).1 }
      { b with database := b.database.replace (t.insertIfAbsent row).1 } := by
  have apart := folded_apart start (show "categories" ∈ Table.names by decide) known categories.symm
  have elsewhere := folded_apart start (show "forums" ∈ Table.names by decide) known forums.symm
  have here : a.database.table? (start ++ name) = some t :=
    (beside.others _ apart.symm elsewhere.symm).trans there
  refine ⟨beside.isOpen, beside.owner, left, right, ?_, ?_, fun other first second => ?_⟩
  · simp only [Database.table?_inserted here, Database.table?_inserted there, if_neg apart]
    exact beside.categories
  · simp only [Database.table?_inserted here, Database.table?_inserted there, if_neg elsewhere]
    exact beside.forums
  · simp only [Database.table?_inserted here, Database.table?_inserted there]
    split
    · rfl
    · exact beside.others other first second

theorem write (beside : Beside base key start a b) (opened : b.isOpen = true) {shape : Table}
    (member : shape ∈ numbered) (row : Row) : (a.write shape.name row).1 = (b.write shape.name row).1 ∧
      Beside base key start (a.write shape.name row).2 (b.write shape.name row).2 := by
  have first := beside.left.regular (beside.isOpen.trans opened)
  have second := beside.right.regular opened
  have known := Database.name_mem_names (keyed_of_numbered member).1
  have apart : shape.name ≠ "categories" ∧ shape.name ≠ "forums" := by
    clear known
    revert member shape
    decide
  have same : a.database.table? (start ++ shape.name) = b.database.table? (start ++ shape.name) :=
    beside.others _ (folded_apart start known (by decide) apart.1) (folded_apart start known (by decide) apart.2)
  have left := (first.write_numbered member row).regular.orderly
  have right := (second.write_numbered member row).regular.orderly
  rw [first.write_eq known, same] at left ⊢
  rw [second.write_eq known] at right ⊢
  cases there : b.database.table? (start ++ shape.name) with
  | none => exact ⟨rfl, beside⟩
  | some t =>
    rw [there] at left right
    dsimp only at left right ⊢
    cases small : Row.fits row with
    | true =>
      rw [small] at left right
      exact ⟨rfl, beside.inserted known apart.1 apart.2 there row left right⟩
    | false => exact ⟨rfl, beside⟩

/-- A forum goes into the table of both gateways, under the numbers that its category has in each. -/
theorem forum_inserted (beside : Beside base key start a b) {t u : StoredTable}
    (here : a.database.table? (start ++ "forums") = some t) (there : b.database.table? (start ++ "forums") = some u)
    (twins : Twins t u) (shape : t.shape = Table.forums) (f : Forum) (n m : Int)
    (left : Orderly { a with database := a.database.replace (t.insertIfAbsent (forumRow f n)).1 } start)
    (right : Orderly { b with database := b.database.replace (u.insertIfAbsent (forumRow f m)).1 } start) :
    Beside base key start { a with database := a.database.replace (t.insertIfAbsent (forumRow f n)).1 }
      { b with database := b.database.replace (u.insertIfAbsent (forumRow f m)).1 } := by
  have apart := (forums_apart start).symm
  refine ⟨beside.isOpen, beside.owner, left, right, ?_, ?_, fun other first second => ?_⟩
  · simp only [Database.table?_inserted here, Database.table?_inserted there, if_neg apart]
    exact beside.categories
  · simp only [Database.table?_inserted here, Database.table?_inserted there, if_true]
    exact .some (twins.insertIfAbsent shape f n m).1
  · simp only [Database.table?_inserted here, Database.table?_inserted there, if_neg second]
    exact beside.others other first second

theorem place (beside : Beside base key start a b) (opened : b.isOpen = true) (f : Forum) {n m : Int}
    (fitsLeft : Value.fits (.int n) = true) (fitsRight : Value.fits (.int m) = true) :
    (a.place f n).1 = (b.place f m).1 ∧ Beside base key start (a.place f n).2 (b.place f m).2 := by
  have first := beside.left.regular (beside.isOpen.trans opened)
  have second := beside.right.regular opened
  have left := (first.place f n).regular.orderly
  have right := (second.place f m).regular.orderly
  have row (g : Forum) : Row.fits (forumRow g n) = Row.fits (forumRow g m) := by
    simp only [Row.fits, forumRow, List.all_append, List.all_cons, List.all_nil, fitsLeft, fitsRight]
  have tables := beside.forums
  cases redirect : f.redirect with
  | none =>
    rw [place_plain redirect, forums_mem.2, first.write_eq (by decide)] at left ⊢
    rw [place_plain redirect, forums_mem.2, second.write_eq (by decide)] at right ⊢
    generalize here : a.database.table? (start ++ "forums") = one at tables left ⊢
    generalize there : b.database.table? (start ++ "forums") = two at tables right ⊢
    cases tables with
    | none => exact ⟨rfl, beside⟩
    | @some t u twins =>
      have shape := (first.tables _ forums_mem.1 t here).1
      dsimp only at left right ⊢
      rw [row f] at left ⊢
      cases small : Row.fits (forumRow f m) with
      | true =>
        rw [small] at left right
        exact ⟨congrArg Except.ok (twins.insertIfAbsent shape f n m).2,
          beside.forum_inserted here there twins shape f n m left right⟩
      | false => exact ⟨rfl, beside⟩
  | some target =>
    rw [place_redirect redirect, first.writeRedirect_eq redirect] at left ⊢
    rw [place_redirect redirect, second.writeRedirect_eq redirect] at right ⊢
    generalize here : a.database.table? (start ++ "forums") = one at tables left ⊢
    generalize there : b.database.table? (start ++ "forums") = two at tables right ⊢
    cases tables with
    | none => exact ⟨rfl, beside⟩
    | @some t u twins =>
      have shape := (first.tables _ forums_mem.1 t here).1
      dsimp only at left right ⊢
      rw [twins.find?, twins.above, row] at left ⊢
      by_cases found : u.find? (redirectRow f.name target) ≠ none
      · rw [if_pos found, if_pos found]
        exact ⟨rfl, beside⟩
      · rw [if_neg found] at left right
        rw [if_neg found, if_neg found]
        cases small : Row.fits (forumRow (renumbered f u.above) m) with
        | true =>
          rw [small] at left right
          exact ⟨rfl, beside.forum_inserted here there twins shape _ n m left right⟩
        | false => exact ⟨rfl, beside⟩

theorem writeForum (beside : Beside base key start a b) (opened : b.isOpen = true) (room : b.Roomy) (f : Forum) :
    (a.writeForum f).1 = (b.writeForum f).1 ∧ Beside base key start (a.writeForum f).2 (b.writeForum f).2 := by
  have first := beside.left.regular (beside.isOpen.trans opened)
  have second := beside.right.regular opened
  obtain ⟨numbered, after⟩ := beside.resolveCategory opened room (categoryOf f)
  generalize one : (a.resolveCategory (categoryOf f)).1 = left at numbered
  generalize two : (b.resolveCategory (categoryOf f)).1 = right at numbered
  cases numbered with
  | refused obstacle =>
    rw [writeForum_error one, writeForum_error two]
    exact ⟨rfl, after⟩
  | answered =>
    rw [writeForum_ok one, writeForum_ok two]
    exact after.place (second.resolveCategory (categoryOf f)).regular.isOpen f (first.category_fits one)
      (second.category_fits two)

theorem noting (beside : Beside base key start a b) (first second : Bool) :
    Beside base key start (a.noting first) (b.noting second) :=
  ⟨beside.isOpen, beside.owner, beside.left.noting first, beside.right.noting second, beside.categories,
    beside.forums, beside.others⟩

theorem insert (beside : Beside base key start a b) (opened : b.isOpen = true) (room : b.Roomy) (record : Record) :
    Answer.Corresponds a.tablePrefix base key (.operation (.insert record)) (.inserted (a.insert record).1)
        (.inserted (b.insert record).1) ∧
      Beside base key start (a.insert record).2 (b.insert record).2 := by
  have first := beside.left.regular (beside.isOpen.trans opened)
  have second := beside.right.regular opened
  rw [first.insert_eq, second.insert_eq, first.insert_answer, second.insert_answer]
  generalize a.insertPending record (a.writeRecord record).1 = begun
  generalize b.insertPending record (b.writeRecord record).1 = other
  have plain (same : (a.writeRecord record).1 = (b.writeRecord record).1 ∧
      Beside base key start (a.writeRecord record).2 (b.writeRecord record).2) :
      Answer.Corresponds a.tablePrefix base key (.operation (.insert record))
          (.inserted ((a.writeRecord record).1.mapError (Obstacle.toError (.insert record.table))))
          (.inserted ((b.writeRecord record).1.mapError (Obstacle.toError (.insert record.table)))) ∧
        Beside base key start ((a.writeRecord record).2.noting begun) ((b.writeRecord record).2.noting other) := by
    rw [same.1]
    exact ⟨.same _ _, same.2.noting begun other⟩
  cases record with
  | forum f => exact plain (beside.writeForum opened room f)
  | topic t => exact plain (beside.write opened (by decide : Table.topics ∈ _) _)
  | post p => exact plain (beside.write opened (by decide : Table.posts ∈ _) _)
  | user u => exact plain (beside.write opened (by decide : Table.users ∈ _) _)
  | category c =>
    rw [writeRecord_category, writeRecord_category]
    obtain ⟨numbered, after⟩ := beside.resolveCategory opened room (c.name, c.position)
    refine ⟨?_, after.noting begun other⟩
    generalize (a.resolveCategory (c.name, c.position)).1 = left at numbered ⊢
    generalize (b.resolveCategory (c.name, c.position)).1 = right at numbered ⊢
    cases numbered with
    | refused obstacle => exact .same _ _
    | answered created number =>
      rcases created with rfl | ⟨same, rfl, rfl⟩
      · exact .same _ _
      · exact .created same

theorem categoryId (beside : Beside base key start a b) (opened : b.isOpen = true) (room : b.Roomy) (name : String)
    (position : Int) :
    Answer.Corresponds a.tablePrefix base key (.operation (.categoryId name position))
        (.category (a.categoryId name position).1) (.category (b.categoryId name position).1) ∧
      Beside base key start (a.categoryId name position).2 (b.categoryId name position).2 := by
  have first := beside.left.regular (beside.isOpen.trans opened)
  have second := beside.right.regular opened
  obtain ⟨numbered, after⟩ := beside.resolveCategory opened room (name, position)
  rw [first.categoryId_eq, second.categoryId_eq, first.categoryId_answer, second.categoryId_answer]
  refine ⟨?_, after.noting _ _⟩
  generalize (a.resolveCategory (name, position)).1 = left at numbered ⊢
  generalize (b.resolveCategory (name, position)).1 = right at numbered ⊢
  cases numbered with
  | refused obstacle => exact .same _ _
  | @answered n m _ _ created number =>
    cases stored : base.find? (categoryRow (name, position)) with
    | none => exact .renumbered stored
    | some i =>
      obtain rfl := number i stored
      exact .same _ _

theorem count (beside : Beside base key start a b) (named : foldName base.name = foldName (start ++ "categories"))
    (opened : b.isOpen = true) (name : String) :
    Answer.Corresponds a.tablePrefix base key (.count name) (.counted (a.count name).1) (.counted (b.count name).1) := by
  have also := beside.isOpen.trans opened
  rw [Sink.count, Sink.count, if_neg (by simp [also]), if_neg (by simp [opened]), Sink.table, Sink.table, ← beside.owner]
  cases read : readTable a.tablePrefix name with
  | error fault => exact .same _ _
  | ok reference =>
    dsimp only
    cases meant : reference.resolve .count with
    | error fault => exact .same _ _
    | ok full =>
      have resolved : resolveName a.tablePrefix .count name = .ok full := by
        rw [resolveName, read]
        exact meant
      dsimp only
      by_cases categories : foldName full = foldName (start ++ "categories")
      · obtain ⟨t, u, here, there, richer⟩ := beside.categories
        rw [Database.table?_congr categories, Database.table?_congr categories, here, there]
        cases reference.lateFault? .count with
        | some fault => exact .same _ _
        | none =>
          dsimp only [Except.map]
          rw [richer.length]
          split
          · exact .counted resolved (categories.trans named.symm)
          · exact .same _ _
      by_cases forums : foldName full = foldName (start ++ "forums")
      · have tables := beside.forums
        rw [Database.table?_congr forums, Database.table?_congr forums]
        generalize a.database.table? (start ++ "forums") = one at tables ⊢
        generalize b.database.table? (start ++ "forums") = two at tables ⊢
        cases tables with
        | none => exact .same _ _
        | some twins =>
          cases reference.lateFault? .count with
          | some fault => exact .same _ _
          | none =>
            dsimp only [Except.map]
            rw [twins.length]
            exact .same _ _
      · rw [beside.others full categories forums]
        exact .same _ _

theorem count_snd (beside : Beside base key start a b) (name : String) :
    Beside base key start (a.count name).2 (b.count name).2 := by
  rw [Sink.count_snd, Sink.count_snd, beside.isOpen]
  split
  · exact beside.noting false false
  · exact beside

/-- Once both have created their tables anew, nothing tells them apart. -/
theorem provision (beside : Beside base key start a b) (opened : b.isOpen = true) :
    a.provision.1 = b.provision.1 ∧
      (Beside base key start a.provision.2 b.provision.2 ∨ Alike a.provision.2 b.provision.2) := by
  have first := beside.left.regular (beside.isOpen.trans opened)
  have second := beside.right.regular opened
  have made := first.alike_provision second.toServes beside.owner fun name apart =>
    beside.others name (apart "categories" (by decide)).symm (apart "forums" (by decide)).symm
  rw [first.provision_eq, second.provision_eq]
  split
  · exact ⟨rfl, .inl (beside.noting false false)⟩
  · exact ⟨rfl, .inr made⟩

theorem reconnect (beside : Beside base key start a b) :
    Beside base key start (connect a.database a.tablePrefix) (connect b.database b.tablePrefix) :=
  ⟨rfl, beside.owner, (beside.left.after .reconnect), (beside.right.after .reconnect), beside.categories, beside.forums,
    beside.others⟩

theorem close (beside : Beside base key start a b) : Beside base key start a.close b.close :=
  ⟨rfl, beside.owner, beside.left, beside.right, beside.categories, beside.forums, beside.others⟩

theorem call (beside : Beside base key start a b) (named : foldName base.name = foldName (start ++ "categories"))
    (room : b.Roomy) (call : Call) :
    Answer.Corresponds a.tablePrefix base key call (call.answer a) (call.answer b) ∧
      (Beside base key start (call.after a) (call.after b) ∨ Alike (call.after a) (call.after b)) := by
  by_cases anew : call = .reconnect
  · subst anew
    exact ⟨.same _ _, .inl beside.reconnect⟩
  cases opened : b.isOpen with
  | false =>
    have also := beside.isOpen.trans opened
    rw [Call.after_closed also anew, Call.after_closed opened anew, Call.answer_closed also opened call]
    exact ⟨.same _ _, .inl beside⟩
  | true =>
    cases call with
    | reconnect => exact absurd rfl anew
    | count name => exact ⟨beside.count named opened name, .inl (beside.count_snd name)⟩
    | operation op =>
      cases op with
      | provision =>
        obtain ⟨same, after⟩ := beside.provision opened
        rw [Call.answer, Call.answer, same]
        exact ⟨.same _ _, after⟩
      | insert record =>
        obtain ⟨answers, after⟩ := beside.insert opened room record
        exact ⟨answers, .inl after⟩
      | categoryId name position =>
        obtain ⟨answers, after⟩ := beside.categoryId opened room name position
        exact ⟨answers, .inl after⟩
      | close => exact ⟨.same _ _, .inl beside.close⟩

/-- Whatever is asked, the answers correspond as long as there is room for categories. -/
theorem callAll (beside : Beside base key start a b) (named : foldName base.name = foldName (start ++ "categories"))
    {calls : List Call} (room : ∀ early, early <+: calls → (Call.afterAll b early).Roomy) (call : Call) :
    Answer.Corresponds a.tablePrefix base key call (call.answer (Call.afterAll a calls))
      (call.answer (Call.afterAll b calls)) := by
  induction calls generalizing a b with
  | nil => exact (beside.call named (room [] List.nil_prefix) call).1
  | cons first rest ih =>
    obtain ⟨-, still | alike⟩ := beside.call named (room [] List.nil_prefix) first
    · rw [← first.tablePrefix_after a]
      exact ih still fun early within => room (first :: early) (List.cons_prefix_cons.mpr ⟨rfl, within⟩)
    · rw [Call.afterAll, Call.afterAll, List.foldl_cons, List.foldl_cons]
      have same := alike.callAll (beside.left.after first) (beside.right.after first) rest call
      rw [Call.afterAll, Call.afterAll] at same
      rw [same]
      exact .same _ _

end Beside

end Sink

end BoardMigration.Store
