import BoardMigration.Proofs.KeepFirst
import BoardMigration.Store.Database

/-! Tables of a database. A table keeps the first row of each key, and what is done to one table leaves
those of other names alone. -/
namespace BoardMigration.Store

theorem foldName_append (start name : String) :
    foldName (start ++ name) = foldName start ++ foldName name := by
  rw [← String.toList_inj]
  simp [foldName]

theorem foldName_append_inj {start first second : String}
    (same : foldName (start ++ first) = foldName (start ++ second)) :
    foldName first = foldName second := by
  rw [foldName_append, foldName_append, ← String.toList_inj] at same
  rw [← String.toList_inj]
  simpa using same

namespace StoredTable

/-- What a row has in the columns of a key. -/
def keyOf (shape : Schema.Table) (row : Row) : List Value := shape.key.map row.value

/-- The table before its first row. -/
def blank (shape : Schema.Table) : StoredTable := ⟨shape.name, shape, []⟩

/-- Rows that bring their numbers are completed alike whatever is stored. -/
theorem complete_numbered (t : StoredTable) {given : Row}
    (numbered : ∀ column ∈ t.shape.columns, column.kind = .key → ∃ n,
      given.find? (·.1 == column.name) = some (column.name, .int n)) :
    t.complete given = (blank t.shape).complete given := by
  apply List.map_congr_left
  intro column member
  by_cases number : column.kind = .key
  · obtain ⟨n, found⟩ := numbered column member number
    simp [found]
  · simp [number]

theorem clashes_iff (t : StoredTable) (keyed : t.shape.key ≠ []) (row : Row) :
    t.clashes row = true ↔ keyOf t.shape row ∈ t.rows.map (keyOf t.shape) := by
  simp [clashes, keyed, keyOf]

/-- Inserting keeps the first row of each key, among those that lack no value. -/
theorem insertIfAbsent_keep (t : StoredTable) (keyed : t.shape.key ≠ []) (given : Row) :
    (t.insertIfAbsent given).1 = { t with
      rows := if t.lacks (t.complete given) then t.rows
        else keep (keyOf t.shape) t.rows (t.complete given) } := by
  rw [insertIfAbsent]
  cases lacking : t.lacks (t.complete given) with
  | true => rfl
  | false =>
    simp only [Bool.false_or, clashes_iff t keyed, keep]
    split <;> rfl

theorem insertIfAbsent_name (t : StoredTable) (given : Row) :
    (t.insertIfAbsent given).1.name = t.name := by
  simp only [insertIfAbsent]
  split <;> rfl

theorem insertIfAbsent_shape (t : StoredTable) (given : Row) :
    (t.insertIfAbsent given).1.shape = t.shape := by
  simp only [insertIfAbsent]
  split <;> rfl

theorem insertIfAbsent_prefix (t : StoredTable) (given : Row) : t.rows <+: (t.insertIfAbsent given).1.rows := by
  simp only [insertIfAbsent]
  split
  · exact List.prefix_rfl
  · exact List.prefix_append _ _

/-- No two rows have one key. -/
def Distinct (t : StoredTable) : Prop := t.shape.key ≠ [] → (t.rows.map (keyOf t.shape)).Nodup

theorem Distinct.insertIfAbsent {t : StoredTable} (distinct : t.Distinct) (given : Row) :
    (t.insertIfAbsent given).1.Distinct := by
  intro keyed
  rw [insertIfAbsent_shape] at keyed
  rw [insertIfAbsent_keep t keyed]
  change ((if t.lacks (t.complete given) then t.rows else _).map (keyOf t.shape)).Nodup
  split
  · exact distinct keyed
  · exact nodup_keep _ (distinct keyed) _

end StoredTable

namespace Database

theorem table?_name {db : Database} {name : String} {t : StoredTable}
    (found : db.table? name = some t) : foldName t.name = foldName name := by
  simpa using List.find?_some found

theorem table?_replace (db : Database) (t : StoredTable) (name : String) :
    (db.replace t).table? name =
      if foldName t.name = foldName name then (db.table? name).map fun _ => t else db.table? name := by
  have folded (u : StoredTable) :
      foldName (if foldName u.name == foldName t.name then t else u).name = foldName u.name := by
    split
    · next same => exact (beq_iff_eq.mp same).symm
    · rfl
  simp only [table?, replace, List.find?_map, Function.comp_def, folded]
  cases found : db.tables.find? fun u => foldName u.name == foldName name with
  | none => simp
  | some u =>
    have here : foldName u.name = foldName name := by simpa using List.find?_some found
    by_cases same : foldName t.name = foldName name
    · simp [here, same]
    · simp [here, same, Ne.symm same]

/-- A table is put back, with one more row or without. -/
theorem table?_inserted {db : Database} {t : StoredTable} {full : String} (there : db.table? full = some t)
    (row : Row) (name : String) : (db.replace (t.insertIfAbsent row).1).table? name =
      if foldName name = foldName full then some (t.insertIfAbsent row).1 else db.table? name := by
  rw [table?_replace, t.insertIfAbsent_name, table?_name there]
  by_cases same : foldName name = foldName full
  · have here : db.table? name = some t := by rw [← there, table?, table?, same]
    rw [if_pos same.symm, if_pos same, here]
    rfl
  · rw [if_neg (Ne.symm same), if_neg same]

theorem table?_added {db : Database} {t : StoredTable} {name : String}
    (there : db.table? name = some t) (row : Row) :
    (db.replace (t.insertIfAbsent row).1).table? name = some (t.insertIfAbsent row).1 := by
  rw [table?_inserted there, if_pos rfl]

theorem table?_drop (db : Database) (other name : String) :
    (db.drop other).table? name =
      if foldName other = foldName name then none else db.table? name := by
  simp only [table?, drop, List.find?_filter]
  split
  · next same => simp [same, List.find?_eq_none]
  · next differs =>
    congr 1
    funext t
    by_cases here : foldName t.name = foldName name
    · simp [here, Ne.symm differs]
    · simp [here]

theorem table?_createTable (db : Database) (full name : String) (shape : Schema.Table) :
    (db.createTable full shape).table? name =
      (db.table? name).or (if foldName full = foldName name then some ⟨full, shape, []⟩ else none) := by
  simp only [table?, createTable, List.find?_append]
  congr 1
  by_cases same : foldName full = foldName name <;> simp [same]

/-- A database with new tables of a board, whose names `full` tells. -/
def provision (full : String → String) (db : Database) : Database :=
  let db := Schema.Table.names.foldl (fun db name => db.drop (full name)) db
  let db := Schema.Table.all.foldl (fun db shape => db.createTable (full shape.name) shape) db
  let db := (Schema.Index.standard ++ [Schema.Index.searchWords]).foldl
    (fun db index => db.createIndex (full index.name) (full index.table)) db
  Schema.seeds.foldl (fun db seed => db.seed (full seed.table) seed.row) db

/-- Names of the board's tables that stay apart when the case of letters is dropped. -/
def Apart (full : String → String) : Prop :=
  ∀ a ∈ Schema.Table.names, ∀ b ∈ Schema.Table.names, foldName (full a) = foldName (full b) → a = b

/-- Whatever begins the names of the tables, they stay apart. -/
theorem apart_start (start : String) : Apart (start ++ ·) := by
  have plain : ∀ a ∈ Schema.Table.names, ∀ b ∈ Schema.Table.names,
      foldName a = foldName b → a = b := by
    decide +kernel
  exact fun a known b other same => plain a known b other (foldName_append_inj same)

theorem name_mem_names {shape : Schema.Table} (member : shape ∈ Schema.Table.all) :
    shape.name ∈ Schema.Table.names := by
  revert member shape
  decide

theorem shape_eq_of_name {first second : Schema.Table} (one : first ∈ Schema.Table.all)
    (other : second ∈ Schema.Table.all) (same : first.name = second.name) : first = second :=
  List.inj_on_of_nodup_map (by decide : (Schema.Table.all.map (·.name)).Nodup) one other same

/-- A table with the rows of its own that every board begins with. -/
def seeded (full : String → String) (shape : Schema.Table) : StoredTable :=
  Schema.seeds.foldl
    (fun t seed => if seed.table = shape.name then (t.insertIfAbsent seed.row).1 else t)
    ⟨full shape.name, shape, []⟩

theorem table?_dropAll (full : String → String) (dropped : List String) (db : Database)
    (name : String) :
    (dropped.foldl (fun db other => db.drop (full other)) db).table? name =
      if ∃ other ∈ dropped, foldName (full other) = foldName name then none else db.table? name := by
  induction dropped generalizing db with
  | nil => simp
  | cons other rest ih =>
    rw [List.foldl_cons, ih, table?_drop]
    by_cases later : ∃ other ∈ rest, foldName (full other) = foldName name
    · simp [later]
    · simp [later]

theorem table?_createAll (full : String → String) (shapes : List Schema.Table) (db : Database)
    {name : String} {t : StoredTable} (found : db.table? name = some t) :
    (shapes.foldl (fun db shape => db.createTable (full shape.name) shape) db).table? name =
      some t := by
  induction shapes generalizing db with
  | nil => exact found
  | cons shape rest ih => exact ih _ (by rw [table?_createTable, found, Option.some_or])

/-- A table that is not there is created. -/
theorem table?_createAll_new (full : String → String) (shapes : List Schema.Table) (db : Database)
    {shape : Schema.Table} (member : shape ∈ shapes) (missing : db.table? (full shape.name) = none)
    (only : ∀ other ∈ shapes, foldName (full other.name) = foldName (full shape.name) → other = shape) :
    (shapes.foldl (fun db shape => db.createTable (full shape.name) shape) db).table?
      (full shape.name) = some ⟨full shape.name, shape, []⟩ := by
  induction shapes generalizing db with
  | nil => cases member
  | cons first rest ih =>
    rw [List.forall_mem_cons] at only
    rw [List.foldl_cons]
    by_cases same : foldName (full first.name) = foldName (full shape.name)
    · obtain rfl := only.1 same
      exact table?_createAll full rest _ (by simp [table?_createTable, missing])
    · have later : shape ∈ rest := by
        rcases List.mem_cons.mp member with rfl | later
        · exact absurd rfl same
        · exact later
      exact ih _ later (by simp [table?_createTable, missing, same]) only.2

theorem table?_createIndexes (full : String → String) (indexes : List Schema.Index) (db : Database)
    (name : String) :
    (indexes.foldl (fun db index => db.createIndex (full index.name) (full index.table)) db).table?
      name = db.table? name := by
  induction indexes generalizing db with
  | nil => rfl
  | cons index rest ih => exact ih _

/-- Rows that go into one table leave the others alone. -/
theorem table?_seed {full : String → String} (apart : Apart full) {shape : Schema.Table}
    (known : shape.name ∈ Schema.Table.names) (seeds : List Schema.Seed)
    (inside : ∀ seed ∈ seeds, seed.table ∈ Schema.Table.names) (db : Database) {t : StoredTable}
    (found : db.table? (full shape.name) = some t) :
    (seeds.foldl (fun db seed => db.seed (full seed.table) seed.row) db).table? (full shape.name) =
    some (seeds.foldl (fun t seed =>
      if seed.table = shape.name then (t.insertIfAbsent seed.row).1 else t) t) := by
  induction seeds generalizing db t with
  | nil => exact found
  | cons seed rest ih =>
    rw [List.forall_mem_cons] at inside
    rw [List.foldl_cons, List.foldl_cons]
    apply ih inside.2
    by_cases same : seed.table = shape.name
    · simp only [Database.seed, same, found, if_true]
      rw [table?_replace, StoredTable.insertIfAbsent_name, if_pos (table?_name found), found]
      rfl
    · rw [if_neg same, Database.seed]
      split
      · next u there =>
        have differs : foldName u.name ≠ foldName (full shape.name) := by
          rw [table?_name there]
          exact fun folded => same (apart _ inside.1 _ known folded)
        rw [table?_replace, StoredTable.insertIfAbsent_name, if_neg differs, found]
      · exact found

/-- A new board has the same tables whatever was there before. -/
theorem table?_provision {full : String → String} (apart : Apart full) (db : Database)
    {shape : Schema.Table} (member : shape ∈ Schema.Table.all) :
    (db.provision full).table? (full shape.name) = some (seeded full shape) := by
  have known := name_mem_names member
  apply table?_seed apart known _ (by decide)
  rw [table?_createIndexes]
  apply table?_createAll_new full _ _ member
  · rw [table?_dropAll, if_pos ⟨shape.name, known, rfl⟩]
  · intro other inside folded
    exact shape_eq_of_name inside member (apart _ (name_mem_names inside) _ known folded)

theorem seeded_shape (full : String → String) (shape : Schema.Table) :
    (seeded full shape).shape = shape ∧ (seeded full shape).Distinct := by
  have kept (seeds : List Schema.Seed) (t : StoredTable) (distinct : t.Distinct) :
      let last := seeds.foldl (fun t seed =>
        if seed.table = shape.name then (t.insertIfAbsent seed.row).1 else t) t
      last.shape = t.shape ∧ last.Distinct := by
    induction seeds generalizing t with
    | nil => exact ⟨rfl, distinct⟩
    | cons seed rest ih =>
      rw [List.foldl_cons]
      split
      · obtain ⟨same, after⟩ := ih _ (distinct.insertIfAbsent seed.row)
        exact ⟨same.trans (t.insertIfAbsent_shape seed.row), after⟩
      · exact ih t distinct
  exact kept Schema.seeds ⟨full shape.name, shape, []⟩ fun _ => List.nodup_nil

end Database
end BoardMigration.Store
