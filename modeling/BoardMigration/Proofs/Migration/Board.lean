import BoardMigration.Migration
import BoardMigration.Proofs.Run.Effects
import BoardMigration.Proofs.Store.Provision

/-! Migrations and the rows they leave. Whether a migration begins with new tables or keeps those that
are there, it adds its topics, posts and users to them as if one by one. -/
namespace BoardMigration

open Schema (Table)

namespace Store

def Database.rowsOf (db : Database) (tablePrefix name : String) : List Row :=
  match (Sink.connect db tablePrefix).table .lookup name with
  | .ok t => t.rows
  | .error _ => []

/-- A database that holds `rows` in the tables of a board whose names begin with `start`. -/
structure Board (db : Database) (tablePrefix start : String) (rows : Table → List Row) : Prop where
  serves : (Sink.connect db tablePrefix).Serves start
  tables : ∀ shape ∈ Sink.numbered, ∃ t, db.table? (start ++ shape.name) = some t ∧
    t.shape = shape ∧ t.rows = rows shape

/-- What records add to the rows of a table. -/
def stored (shape : Table) (records : List Record) : List Row :=
  records.filterMap (Sink.stored? shape)

def added (rows : Table → List Row) (records : List Record) (shape : Table) : List Row :=
  keepFirst (StoredTable.keyOf shape) (rows shape) (stored shape records)

theorem Board.rowsOf {db : Database} {tablePrefix start : String} {rows : Table → List Row}
    (board : Board db tablePrefix start rows) {shape : Table} (member : shape ∈ Sink.numbered) :
    db.rowsOf tablePrefix shape.name = rows shape := by
  have known := Database.name_mem_names (Sink.keyed_of_numbered member).1
  obtain ⟨t, found, -, same⟩ := board.tables shape member
  have here : (Sink.connect db tablePrefix).database.table? (start ++ shape.name) = some t := found
  rw [Database.rowsOf, board.serves.table known, here]
  exact same

theorem serves_insertAll {s : Sink} {start : String} (serves : s.Serves start) {t : StoredTable}
    (found : s.database.table? (start ++ t.shape.name) = some t) (member : t.shape ∈ Sink.numbered)
    (records : List Record) :
    (target.insertAll s records).tablePrefix = s.tablePrefix ∧
    (target.insertAll s records).database.table? (start ++ t.shape.name) = some { t with
      rows := keepFirst (StoredTable.keyOf t.shape) t.rows (stored t.shape records) } := by
  induction records generalizing s t with
  | nil => exact ⟨rfl, found⟩
  | cons record rest ih =>
    have keeps := serves.keeps_insert record
    let next : StoredTable := { t with
      rows := keepFirst (StoredTable.keyOf t.shape) t.rows (Sink.stored? t.shape record).toList }
    obtain ⟨named, last⟩ := ih (t := next) (serves.keeps keeps)
      (serves.table?_insert member found record) member
    refine ⟨named.trans keeps.tablePrefix, ?_⟩
    rw [stored, filterMap_cons_toList, keepFirst_append]
    exact last

/-- A run that is not broken off adds its insertions. -/
theorem Board.run {db : Database} {tablePrefix start : String} {rows : Table → List Row}
    (board : Board db tablePrefix start rows) (fallback : Int) (files : List SourceFile) (halt : Halt)
    (unbroken : halt.ending files.length ≠ .aborted) :
    Board (target.run (Sink.connect db tablePrefix) fallback files halt).sink.database tablePrefix start
      (added rows (insertions (halt.taken files) fallback)) where
  serves := board.serves.connect _
  tables := by
    intro shape member
    obtain ⟨t, found, rfl, same⟩ := board.tables shape member
    obtain ⟨-, last⟩ := serves_insertAll board.serves found member
      (insertions (halt.taken files) fallback)
    rw [target.run_sink _ _ _ _ unbroken]
    exact ⟨_, last, rfl, by rw [added, ← same]⟩

def Creatable (db : Database) (tablePrefix : String) : Prop :=
  (Sink.connect db tablePrefix).provision.1 = .ok ()

def created (db : Database) (tablePrefix : String) : Database :=
  db.provision (Sink.connect db tablePrefix).fullName

/-- The rows every board begins with. -/
def firstRows (tablePrefix : String) (shape : Table) : List Row :=
  (Database.seeded (Sink.connect {} tablePrefix).fullName shape).rows

variable {db : Database} {tablePrefix : String}

theorem creatable_iff : Creatable db tablePrefix ↔
    (Sink.runSteps tablePrefix db Sink.schemaSteps).1 = none := by
  rw [Creatable, Sink.provision, if_neg (by simp [Sink.connect])]
  have same : Sink.runSteps (Sink.connect db tablePrefix).tablePrefix (Sink.connect db tablePrefix).database
      Sink.schemaSteps = Sink.runSteps tablePrefix db Sink.schemaSteps := rfl
  rw [same]
  generalize Sink.runSteps tablePrefix db Sink.schemaSteps = outcome
  obtain ⟨fault, left⟩ := outcome
  cases fault <;> simp

/-- Tables are created where their names are left alone and not reserved. -/
theorem Creatable.names (creatable : Creatable db tablePrefix) (there : Database) :
    ∃ start, (Sink.connect there tablePrefix).Serves start ∧ Sink.isReserved start = false :=
  Sink.serves_of_runSteps (creatable_iff.mp creatable) there

theorem creatable_of_names {start : String} {there : Database} (serves : (Sink.connect there tablePrefix).Serves start)
    (free : Sink.isReserved start = false) (db : Database) : Creatable db tablePrefix := by
  have through := serves.runSteps_eq free db
  change Sink.runSteps tablePrefix db _ = _ at through
  rw [creatable_iff, through]

theorem creatable_plain (plain : Plain tablePrefix) (free : Sink.isReserved tablePrefix = false) :
    Creatable db tablePrefix := creatable_of_names (plain.serves db) free db

/-- Whether tables can be created is a matter of their names only. -/
theorem Creatable.anew (creatable : Creatable db tablePrefix) (other : Database) :
    Creatable other tablePrefix := by
  obtain ⟨start, serves, free⟩ := creatable.names other
  exact creatable_of_names serves free other

theorem Creatable.provision (creatable : Creatable db tablePrefix) :
    (Sink.connect db tablePrefix).provision =
      (.ok (), Sink.connect (created db tablePrefix) tablePrefix) := by
  obtain ⟨start, serves, free⟩ := creatable.names db
  rw [serves.provision_eq, if_neg (by simp [free])]
  rfl

theorem Creatable.serves (creatable : Creatable db tablePrefix) :
    ∃ start, (Sink.connect db tablePrefix).Serves start := by
  obtain ⟨start, serves, -⟩ := creatable.names db
  exact ⟨start, serves⟩

/-- Tables that can be created are there, whatever was there before. -/
theorem Creatable.tables (creatable : Creatable db tablePrefix) :
    ∃ start, (Sink.connect (created db tablePrefix) tablePrefix).Serves start ∧
      ∀ shape ∈ Table.all, (created db tablePrefix).table? (start ++ shape.name) =
        some (Database.seeded (Sink.connect {} tablePrefix).fullName shape) := by
  obtain ⟨start, serves⟩ := creatable.serves
  have full : (Sink.connect db tablePrefix).fullName = (Sink.connect {} tablePrefix).fullName := rfl
  refine ⟨start, serves.connect _, fun shape member => ?_⟩
  rw [created, ← full]
  exact serves.table?_provision member

/-- A new board holds nothing but its first rows. -/
theorem Creatable.board (creatable : Creatable db tablePrefix) :
    ∃ start, Board (created db tablePrefix) tablePrefix start (firstRows tablePrefix) := by
  obtain ⟨start, serves, tables⟩ := creatable.tables
  refine ⟨start, serves, fun shape member => ?_⟩
  have there := tables shape (Sink.keyed_of_numbered member).1
  exact ⟨_, there, (Database.seeded_shape _ shape).1, rfl⟩

theorem firstRows_distinct (tablePrefix : String) {shape : Table} (member : shape ∈ Sink.numbered) :
    ((firstRows tablePrefix shape).map (StoredTable.keyOf shape)).Nodup := by
  obtain ⟨same, distinct⟩ := Database.seeded_shape (Sink.connect {} tablePrefix).fullName shape
  have keyed : (Database.seeded (Sink.connect {} tablePrefix).fullName shape).shape.key ≠ [] := by
    rw [same, (Sink.keyed_of_numbered member).2.1]
    exact List.cons_ne_nil _ _
  have rows := distinct keyed
  rwa [same] at rows

end Store
end BoardMigration
