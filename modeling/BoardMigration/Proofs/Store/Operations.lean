import BoardMigration.Proofs.Store.Provision
import BoardMigration.Proofs.Store.Receives

/-! Databases that gateways have worked on. Whatever they did, under whatever prefixes, tables have the
columns of the board's tables whose names they end in, and hold no integer of more than 64 bits. -/
namespace BoardMigration.Store

open Schema (Table)

/-- What a gateway is asked to do. -/
inductive Operation where
  | provision
  | insert (record : Record)
  | categoryId (name : String) (position : Int)
  | close
  deriving DecidableEq, Repr

/-- The gateway after an operation, whatever the answer. -/
def Operation.perform (s : Sink) : Operation → Sink
  | provision => s.provision.2
  | insert record => (s.insert record).2
  | categoryId name position => (s.categoryId name position).2
  | close => s.close

/-- A database that gateways have worked on, under whatever prefixes, one after another or at once. A prefix
that closes its quote may have filled a table with any rows, or dropped one. -/
inductive Worked : Database → Prop
  | new : Worked {}
  | operation {s : Sink} (before : Worked s.database) (op : Operation) : Worked (op.perform s).database
  | filled {db : Database} (before : Worked db) {t : StoredTable} (inside : t ∈ db.tables) {rows : List Row}
      (small : ∀ row ∈ rows, Row.fits row = true) : Worked (db.replace { t with rows })
  | dropped {db : Database} (before : Worked db) (name : String) : Worked (db.drop name)

/-- A table whose columns are those of the board's table that its name ends in. -/
structure StoredTable.Sound (t : StoredTable) : Prop where
  known : t.shape ∈ Table.all
  named : ∃ start, t.name = start ++ t.shape.name
  fits : ∀ row ∈ t.rows, Row.fits row = true

def Database.Sound (db : Database) : Prop := ∀ t ∈ db.tables, t.Sound

theorem StoredTable.Sound.insertIfAbsent {t : StoredTable} (sound : t.Sound) {row : Row}
    (small : row.fits = true) : (t.insertIfAbsent row).1.Sound where
  known := by
    rw [t.insertIfAbsent_shape]
    exact sound.known
  named := by
    rw [t.insertIfAbsent_shape, t.insertIfAbsent_name]
    exact sound.named
  fits := insertIfAbsent_fits sound.known sound.fits small

namespace Database

theorem mem_of_table? {db : Database} {name : String} {t : StoredTable}
    (there : db.table? name = some t) : t ∈ db.tables := List.mem_of_find?_eq_some there

theorem Sound.replace {db : Database} (sound : db.Sound) {t : StoredTable} (own : t.Sound) :
    (db.replace t).Sound := by
  intro u member
  obtain ⟨v, inside, rfl⟩ := List.mem_map.mp member
  split
  · exact own
  · exact sound v inside

theorem Sound.drop {db : Database} (sound : db.Sound) (name : String) : (db.drop name).Sound :=
  fun t member => sound t (List.mem_filter.mp member).1

theorem Sound.dropAll {db : Database} (sound : db.Sound) (full : String → String) (names : List String) :
    (names.foldl (fun db name => db.drop (full name)) db).Sound := by
  induction names generalizing db with
  | nil => exact sound
  | cons name rest ih => exact ih (sound.drop (full name))

theorem Sound.createAll {db : Database} (sound : db.Sound) {full : String → String}
    (ends : ∀ shape ∈ Table.all, ∃ start, full shape.name = start ++ shape.name) {shapes : List Table}
    (known : ∀ shape ∈ shapes, shape ∈ Table.all) :
    (shapes.foldl (fun db shape => db.createTable (full shape.name) shape) db).Sound := by
  induction shapes generalizing db with
  | nil => exact sound
  | cons shape rest ih =>
    rw [List.forall_mem_cons] at known
    refine ih (fun t member => ?_) known.2
    rcases List.mem_append.mp member with old | new
    · exact sound t old
    · rw [List.mem_singleton.mp new]
      exact ⟨known.1, ends shape known.1, by simp⟩

theorem Sound.createIndexes {db : Database} (sound : db.Sound) (full : String → String)
    (indexes : List Schema.Index) :
    (indexes.foldl (fun db index => db.createIndex (full index.name) (full index.table)) db).Sound := by
  induction indexes generalizing db with
  | nil => exact sound
  | cons index rest ih => exact ih sound

theorem Sound.seed {db : Database} (sound : db.Sound) (name : String) {row : Row} (small : row.fits = true) :
    (db.seed name row).Sound := by
  rw [Database.seed]
  split
  · next t there => exact sound.replace ((sound t (mem_of_table? there)).insertIfAbsent small)
  · exact sound

theorem Sound.seedAll {db : Database} (sound : db.Sound) (full : String → String) {seeds : List Schema.Seed}
    (small : ∀ seed ∈ seeds, Row.fits seed.row = true) :
    (seeds.foldl (fun db seed => db.seed (full seed.table) seed.row) db).Sound := by
  induction seeds generalizing db with
  | nil => exact sound
  | cons seed rest ih =>
    rw [List.forall_mem_cons] at small
    exact ih (sound.seed _ small.1) small.2

theorem Sound.provision {db : Database} (sound : db.Sound) {full : String → String}
    (ends : ∀ shape ∈ Table.all, ∃ start, full shape.name = start ++ shape.name) :
    (db.provision full).Sound := by
  have dropped := sound.dropAll full Table.names
  have created := dropped.createAll ends fun _ known => known
  have indexed := created.createIndexes full (Schema.Index.standard ++ [Schema.Index.searchWords])
  exact indexed.seedAll full (by decide)

theorem Sound.exchanged {db : Database} (sound : db.Sound) (gone : List String) {made : List StoredTable}
    (own : ∀ t ∈ made, t.Sound) : (db.exchanged gone made).Sound := by
  intro t member
  rcases List.mem_append.mp member with old | new
  · exact sound.dropAll id gone t old
  · exact own t new

end Database

namespace Sink

variable {s : Sink}

theorem sound_provision (sound : s.database.Sound) : s.provision.2.database.Sound := by
  have provisions := s.provisions
  generalize s.provision.2.database = left at provisions
  cases provisions with
  | @whole start serves _ =>
    refine sound.provision fun shape member => ⟨start, ?_⟩
    exact serves.fullName (wordy_of_known (Database.name_mem_names member))
  | partway gone made shapes each =>
    refine sound.exchanged gone fun t member => ?_
    obtain ⟨empty, -, named⟩ := each t member
    exact ⟨shapes.subset (List.mem_map_of_mem member), named, by simp [empty]⟩

theorem Receives.sound {after : Sink} (receives : s.Receives after) (sound : s.database.Sound) :
    after.database.Sound := by
  induction receives with
  | none => exact sound
  | row _ _ found small before =>
    obtain ⟨full, -, there⟩ := table_ok found
    exact before.replace ((before _ (Database.mem_of_table? there)).insertIfAbsent small)
  | remembered _ _ _ before => exact before
  | noted _ _ before => exact before

end Sink

theorem Operation.sound_perform {s : Sink} (sound : s.database.Sound) (operation : Operation) :
    (operation.perform s).database.Sound := by
  cases operation with
  | provision => exact Sink.sound_provision sound
  | insert record => exact (s.receives_insert record).sound sound
  | categoryId name position => exact (s.receives_categoryId name position).sound sound
  | close => exact sound

/-- Whatever gateways do, tables stay sound. -/
theorem Worked.sound {db : Database} (worked : Worked db) : db.Sound := by
  induction worked with
  | new => simp [Database.Sound]
  | operation _ op sound => exact op.sound_perform sound
  | filled _ inside small sound => exact sound.replace ⟨(sound _ inside).known, (sound _ inside).named, small⟩
  | dropped _ name sound => exact sound.drop name

/-- A sound table that is found under the name of one of the board's tables has its columns. -/
theorem Database.Sound.shape_eq {db : Database} (sound : db.Sound) {start : String} {shape : Table}
    (member : shape ∈ Table.all) {t : StoredTable}
    (there : db.table? (start ++ shape.name) = some t) : t.shape = shape := by
  obtain ⟨known, ⟨other, named⟩, -⟩ := sound t (mem_of_table? there)
  have same := table?_name there
  rw [named] at same
  have object {shape : Table} (member : shape ∈ Table.all) : shape.name ∈ objectNames :=
    List.mem_append_left _ (name_mem_names member)
  exact shape_eq_of_name known member (object_eq_of_folded (object known) (object member) same).1

/-- Opened anew, a database that gateways have worked on is in good order. -/
theorem Worked.regular {db : Database} (worked : Worked db) {tablePrefix start : String}
    (serves : (Sink.connect db tablePrefix).Serves start) :
    (Sink.connect db tablePrefix).Regular start where
  toServes := serves
  tables := by
    intro shape member t there
    exact ⟨worked.sound.shape_eq member there, (worked.sound t (Database.mem_of_table? there)).fits⟩
  recalls := fun key n cached => by simp [Sink.connect, Sink.known?] at cached

end BoardMigration.Store
