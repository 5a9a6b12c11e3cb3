import BoardMigration.Proofs.Store.Operations

/-! Names in databases that gateways have worked on. All tables and indexes are named like those of a board
behind some prefix, no two alike, and whoever creates a board finds its names free once the old tables are
gone. -/
namespace BoardMigration.Store

open Schema (Table Index)

namespace Database

/-- Names of all tables and indexes, without case. -/
def titles (db : Database) : List String := db.objects.map fun object => foldName object.2

theorem titles_eq (db : Database) :
    db.titles = db.indexes.map (foldName ·.name) ++ db.tables.map (foldName ·.name) := by
  simp [titles, objects, Function.comp_def]

/-- A database whose tables and indexes are those of boards, of which no two have one name. -/
structure Titled (db : Database) : Prop where
  tables : ∀ t ∈ db.tables, ∃ start, ∃ name ∈ Table.names, t.name = start ++ name
  indexes : ∀ i ∈ db.indexes, ∃ start, ∃ index ∈ allIndexes,
    i.name = start ++ index.name ∧ i.table = start ++ index.table
  distinct : db.titles.Nodup

theorem titles_replace (db : Database) (t : StoredTable) : (db.replace t).titles = db.titles := by
  have kept : (db.replace t).tables.map (foldName ·.name) = db.tables.map (foldName ·.name) := by
    rw [replace, List.map_map]
    apply List.map_congr_left
    intro u member
    by_cases same : foldName u.name = foldName t.name
    · simp [same]
    · simp [same]
  rw [titles_eq, titles_eq, kept]
  rfl

/-- A table may take the place of one of its name. -/
theorem Titled.replace {db : Database} (titled : db.Titled) {t u : StoredTable} (inside : t ∈ db.tables)
    (same : u.name = t.name) : (db.replace u).Titled where
  tables := by
    intro v member
    obtain ⟨w, there, rfl⟩ := List.mem_map.mp member
    split
    · rw [same]
      exact titled.tables t inside
    · exact titled.tables w there
  indexes := titled.indexes
  distinct := by
    rw [titles_replace]
    exact titled.distinct

theorem Titled.added {db : Database} (titled : db.Titled) {t : StoredTable} {name : String}
    (there : db.table? name = some t) (given : Row) : (db.replace (t.insertIfAbsent given).1).Titled :=
  titled.replace (mem_of_table? there) (t.insertIfAbsent_name given)

variable {db : Database}

/-- The database once the old tables of a board are gone. -/
def cleared (full : String → String) (db : Database) : Database :=
  Table.names.foldl (fun db name => db.drop (full name)) db

def addTables (full : String → String) (db : Database) : Database :=
  Table.all.foldl (fun db t => db.createTable (full t.name) t) db

def addIndexes (full : String → String) (db : Database) : Database :=
  allIndexes.foldl (fun db index => db.createIndex (full index.name) (full index.table)) db

/-- The database with new tables of a board, before their first rows. -/
def renewed (full : String → String) (db : Database) : Database :=
  ((db.cleared full).addTables full).addIndexes full

theorem provision_eq (full : String → String) (db : Database) :
    db.provision full =
      Schema.seeds.foldl (fun db seed => db.seed (full seed.table) seed.row) (db.renewed full) := rfl

theorem dropAll_eq (full : String → String) (names : List String) (db : Database) :
    names.foldl (fun db name => db.drop (full name)) db = {
      tables := db.tables.filter fun t => names.all fun name => foldName t.name != foldName (full name)
      indexes := db.indexes.filter fun i =>
        names.all fun name => foldName i.table != foldName (full name) } := by
  induction names generalizing db with
  | nil => simp
  | cons name rest ih =>
    rw [List.foldl_cons, ih]
    simp [drop, List.filter_filter, Bool.and_comm]

theorem mem_cleared_tables {full : String → String} {t : StoredTable} :
    t ∈ (db.cleared full).tables ↔
      t ∈ db.tables ∧ ∀ name ∈ Table.names, foldName t.name ≠ foldName (full name) := by
  simp [cleared, dropAll_eq]

theorem mem_cleared_indexes {full : String → String} {i : StoredIndex} :
    i ∈ (db.cleared full).indexes ↔
      i ∈ db.indexes ∧ ∀ name ∈ Table.names, foldName i.table ≠ foldName (full name) := by
  simp [cleared, dropAll_eq]

theorem titles_dropAll (full : String → String) (names : List String) (db : Database) :
    (names.foldl (fun db name => db.drop (full name)) db).titles.Sublist db.titles := by
  rw [titles_eq, titles_eq, dropAll_eq]
  exact (List.filter_sublist.map _).append (List.filter_sublist.map _)

theorem renewed_eq (full : String → String) (db : Database) :
    db.renewed full = {
      tables := (db.cleared full).tables ++ Table.all.map fun t => ⟨full t.name, t, []⟩
      indexes := (db.cleared full).indexes ++ allIndexes.map fun i => ⟨full i.name, full i.table⟩ } := by
  have tables (shapes : List Table) (db : Database) :
      shapes.foldl (fun db t => db.createTable (full t.name) t) db =
        { db with tables := db.tables ++ shapes.map fun t => ⟨full t.name, t, []⟩ } := by
    induction shapes generalizing db with
    | nil => simp
    | cons t rest ih =>
      rw [List.foldl_cons, ih]
      simp [createTable]
  have indexes (indexes : List Index) (db : Database) :
      indexes.foldl (fun db index => db.createIndex (full index.name) (full index.table)) db =
        { db with indexes := db.indexes ++ indexes.map fun i => ⟨full i.name, full i.table⟩ } := by
    induction indexes generalizing db with
    | nil => simp
    | cons i rest ih =>
      rw [List.foldl_cons, ih]
      simp [createIndex]
  rw [renewed, addTables, addIndexes, tables, indexes]

/-- Once the old tables of a board are gone, nothing has a name that its tables and indexes will get. -/
theorem Titled.free (titled : db.Titled) {start : String} {full : String → String}
    (uniform : ∀ name ∈ objectNames, full name = start ++ name) {name : String}
    (known : name ∈ objectNames) : foldName (full name) ∉ (db.cleared full).titles := by
  have ofTable {name : String} (known : name ∈ Table.names) : name ∈ objectNames :=
    List.mem_append_left _ known
  rw [titles_eq, List.mem_append, List.mem_map, List.mem_map, uniform name known]
  rintro (⟨i, member, same⟩ | ⟨t, member, same⟩)
  · obtain ⟨inside, others⟩ := mem_cleared_indexes.mp member
    obtain ⟨other, index, listed, named, table⟩ := titled.indexes i inside
    have object : index.name ∈ objectNames := List.mem_append_right _ (List.mem_map_of_mem listed)
    rw [named] at same
    obtain ⟨-, starts⟩ := object_eq_of_folded object known same
    have there := table_mem_names listed
    refine others index.table there ?_
    rw [table, uniform _ (ofTable there), foldName_append, foldName_append, starts]
  · obtain ⟨inside, others⟩ := mem_cleared_tables.mp member
    obtain ⟨other, own, listed, named⟩ := titled.tables t inside
    rw [named] at same
    obtain ⟨equal, -⟩ := object_eq_of_folded (ofTable listed) known same
    refine others own listed ?_
    rw [named, equal, uniform name known, ← same, equal]

theorem Titled.renewed (titled : db.Titled) {start : String} {full : String → String}
    (uniform : ∀ name ∈ objectNames, full name = start ++ name) : (db.renewed full).Titled where
  tables := by
    rw [renewed_eq]
    intro t member
    rcases List.mem_append.mp member with old | new
    · exact titled.tables t (mem_cleared_tables.mp old).1
    · obtain ⟨shape, listed, rfl⟩ := List.mem_map.mp new
      have known := name_mem_names listed
      exact ⟨start, shape.name, known, uniform _ (List.mem_append_left _ known)⟩
  indexes := by
    rw [renewed_eq]
    intro i member
    rcases List.mem_append.mp member with old | new
    · exact titled.indexes i (mem_cleared_indexes.mp old).1
    · obtain ⟨index, listed, rfl⟩ := List.mem_map.mp new
      exact ⟨start, index, listed, uniform _ (List.mem_append_right _ (List.mem_map_of_mem listed)),
        uniform _ (List.mem_append_left _ (table_mem_names listed))⟩
  distinct := by
    have whole : (db.renewed full).titles.Perm
        ((db.cleared full).titles ++ objectNames.map fun name => foldName (full name)) := by
      have names : Table.names = Table.all.map (·.name) := rfl
      simp only [titles_eq, renewed_eq, objectNames, names, List.map_append, List.map_map,
        Function.comp_def, List.append_assoc]
      refine .append_left _ (List.perm_append_comm.trans ?_)
      rw [List.append_assoc]
    have old := titled.distinct.sublist (titles_dropAll full Table.names db)
    have new : (objectNames.map fun name => foldName (full name)).Nodup := by
      refine List.Nodup.map_on (fun a one b other same => ?_) (by decide)
      rw [uniform a one, uniform b other] at same
      exact (object_eq_of_folded one other same).1
    rw [whole.nodup_iff]
    apply old.append new
    rintro title here there
    obtain ⟨name, known, rfl⟩ := List.mem_map.mp there
    exact titled.free uniform known here

theorem Titled.seed (titled : db.Titled) (name : String) (row : Row) : (db.seed name row).Titled := by
  rw [Database.seed]
  split
  · next t there => exact titled.added there row
  · exact titled

theorem Titled.provision (titled : db.Titled) {start : String} {full : String → String}
    (uniform : ∀ name ∈ objectNames, full name = start ++ name) : (db.provision full).Titled := by
  have seeded (seeds : List Schema.Seed) {db : Database} (titled : db.Titled) :
      (seeds.foldl (fun db seed => db.seed (full seed.table) seed.row) db).Titled := by
    induction seeds generalizing db with
    | nil => exact titled
    | cons seed rest ih => exact ih (titled.seed _ seed.row)
  rw [provision_eq]
  exact seeded _ (titled.renewed uniform)

theorem Titled.dropAll (titled : db.Titled) (full : String → String) (names : List String) :
    (names.foldl (fun db name => db.drop (full name)) db).Titled where
  tables := by
    rw [dropAll_eq]
    exact fun t member => titled.tables t (List.mem_filter.mp member).1
  indexes := by
    rw [dropAll_eq]
    exact fun i member => titled.indexes i (List.mem_filter.mp member).1
  distinct := titled.distinct.sublist (titles_dropAll full names db)

/-- New tables that have names of tables that are gone. -/
theorem Titled.exchanged (titled : db.Titled) (gone : List String) {made : List StoredTable}
    (shapes : made.map (·.shape) <+: Table.all)
    (each : ∀ t ∈ made, t.name ∈ gone ∧ ∃ start, t.name = start ++ t.shape.name) :
    (db.exchanged gone made).Titled := by
  have left : (gone.foldl Database.drop db).Titled := titled.dropAll id gone
  have known (t : StoredTable) (member : t ∈ made) : t.shape.name ∈ Table.names :=
    name_mem_names (shapes.subset (List.mem_map_of_mem member))
  have own (t : StoredTable) (member : t ∈ made) : t.shape.name ∈ objectNames :=
    List.mem_append_left _ (known t member)
  constructor
  · intro t member
    rcases List.mem_append.mp member with old | new
    · exact left.tables t old
    · obtain ⟨-, start, named⟩ := each t new
      exact ⟨start, t.shape.name, known t new, named⟩
  · exact left.indexes
  · have whole : (db.exchanged gone made).titles =
        (gone.foldl Database.drop db).titles ++ made.map (foldName ·.name) := by
      simp [titles_eq, Database.exchanged]
    rw [whole]
    refine left.distinct.append ?_ ?_
    · have apart : made.Pairwise fun t u => t.shape ≠ u.shape :=
        List.pairwise_map.mp ((by decide : Table.all.Nodup).sublist shapes.sublist)
      refine List.pairwise_map.mpr (apart.imp_of_mem fun {t u} one other differs same => differs ?_)
      obtain ⟨-, first, named⟩ := each t one
      obtain ⟨-, second, also⟩ := each u other
      rw [named, also] at same
      exact shape_eq_of_name (shapes.subset (List.mem_map_of_mem one)) (shapes.subset (List.mem_map_of_mem other))
        (object_eq_of_folded (own t one) (own u other) same).1
    · rintro title here there
      obtain ⟨t, member, rfl⟩ := List.mem_map.mp there
      obtain ⟨dropped, start, named⟩ := each t member
      rw [titles_eq, List.mem_append, List.mem_map, List.mem_map] at here
      rcases here with ⟨i, inside, same⟩ | ⟨u, inside, same⟩
      · obtain ⟨other, index, listed, title, -⟩ := left.indexes i inside
        have object : index.name ∈ objectNames := List.mem_append_right _ (List.mem_map_of_mem listed)
        rw [title, named] at same
        have twice := (object_eq_of_folded object (own t member) same).1
        have disjoint := List.disjoint_of_nodup_append (by decide : objectNames.Nodup)
        exact disjoint (known t member) (twice ▸ List.mem_map_of_mem listed)
      · have left : gone.foldl Database.drop db = gone.foldl (fun db name => db.drop (id name)) db := rfl
        rw [left, dropAll_eq] at inside
        have others := List.all_eq_true.mp (List.mem_filter.mp inside).2 t.name dropped
        exact (bne_iff_ne.mp others) same

end Database

namespace Sink

variable {s after : Sink}

theorem Receives.titled (receives : s.Receives after) (titled : s.database.Titled) :
    after.database.Titled := by
  induction receives with
  | none => exact titled
  | row _ _ found _ before =>
    obtain ⟨full, -, there⟩ := table_ok found
    exact before.added there _
  | remembered _ _ _ before => exact before
  | noted _ _ before => exact before

theorem titled_provision (titled : s.database.Titled) : s.provision.2.database.Titled := by
  have provisions := s.provisions
  generalize s.provision.2.database = left at provisions
  cases provisions with
  | whole serves _ => exact titled.provision fun name known => serves.fullName (wordy_of_object known)
  | partway gone made shapes each => exact titled.exchanged gone shapes fun t member => (each t member).2

theorem titled_perform (titled : s.database.Titled) (op : Operation) : (op.perform s).database.Titled := by
  cases op with
  | provision => exact titled_provision titled
  | insert record => exact (s.receives_insert record).titled titled
  | categoryId name position => exact (s.receives_categoryId name position).titled titled
  | close => exact titled

end Sink

theorem Worked.titled {db : Database} (worked : Worked db) : db.Titled := by
  induction worked with
  | new => exact ⟨by simp, by simp, List.nodup_nil⟩
  | operation _ op titled => exact Sink.titled_perform titled op
  | filled _ inside _ titled => exact titled.replace inside rfl
  | dropped _ name titled => exact titled.dropAll id [name]

/-- In databases that gateways have worked on, an index with a name of a board is one on its tables. -/
theorem Worked.index_owned {db : Database} (worked : Worked db) {i : StoredIndex}
    (member : i ∈ db.indexes) {tablePrefix name : String} (known : name ∈ objectNames)
    (named : foldName i.name = foldName (tablePrefix ++ name)) :
    ownedBy tablePrefix (foldName i.table) = true := by
  obtain ⟨start, index, listed, title, table⟩ := worked.titled.indexes i member
  have object : index.name ∈ objectNames := List.mem_append_right _ (List.mem_map_of_mem listed)
  rw [title] at named
  obtain ⟨-, starts⟩ := object_eq_of_folded object known named
  refine ownedBy_iff.mpr ⟨index.table, table_mem_names listed, ?_⟩
  rw [table, foldName_append, foldName_append, starts]

end BoardMigration.Store
