import BoardMigration.Proofs.Store.Objects

/-! Creating the tables of a board, one statement after another. Where a prefix leaves names alone all
statements get through, unless the names are reserved. Where one fails, what ran before it stays: tables are
gone, and new ones stand in the place of some. -/
namespace BoardMigration.Store

open Schema (Table Index)

theorem wordy_of_object {name : String} (known : name ∈ objectNames) : Wordy name.toList := by
  have plain : (objectNames.all fun name =>
      !name.toList.isEmpty && name.toList.all Text.isWordChar) = true := by
    decide +kernel
  have here := List.all_eq_true.mp plain name known
  simp only [Bool.and_eq_true, List.all_eq_true] at here
  exact ⟨by simpa using here.1, here.2⟩

theorem wordy_of_index {index : Index} (member : index ∈ allIndexes) : Wordy index.name.toList :=
  wordy_of_object (List.mem_append_right _ (List.mem_map_of_mem member))

namespace Sink

variable {s : Sink} {start tablePrefix : String} {db : Database}

theorem runSteps_cons (tablePrefix : String) (db : Database) (step : SchemaStep) (rest : List SchemaStep) :
    runSteps tablePrefix db (step :: rest) =
      match runStep tablePrefix db step with
      | .error fault => (some fault, db)
      | .ok after => runSteps tablePrefix after rest := rfl

theorem runStep_drop (tablePrefix : String) (db : Database) (name : String) :
    runStep tablePrefix db (.drop name) =
      match resolveName tablePrefix .drop name with
      | .error (.noSuchTable _) => .ok db
      | .error fault => .error fault
      | .ok full =>
        match master? full with
        | some master => .error (.undroppable master)
        | none => .ok (if isReserved full then db else db.drop full) := rfl

theorem runStep_create (tablePrefix : String) (db : Database) (shape : Table) :
    runStep tablePrefix db (.create shape) =
      match resolveName tablePrefix .create shape.name with
      | .error fault => .error fault
      | .ok full => if isReserved full then .error (.reserved full) else .ok (db.createTable full shape) := rfl

theorem runStep_index (tablePrefix : String) (db : Database) (index : Index) :
    runStep tablePrefix db (.index index) =
      match resolveName tablePrefix .create index.name, resolveName tablePrefix .on index.table with
      | .ok full, .ok table => .ok (db.createIndex full table)
      | .error fault, _ => .error fault
      | _, .error fault => .error fault := rfl

theorem runStep_seed (tablePrefix : String) (db : Database) (seed : Schema.Seed) :
    runStep tablePrefix db (.seed seed) =
      match resolveName tablePrefix .write seed.table with
      | .error fault => .error fault
      | .ok full => .ok (db.seed full seed.row) := rfl

/-- An index is created only on a table whose name is read. -/
theorem resolveName_of_index {index : Index} {after : Database}
    (ran : runStep tablePrefix db (.index index) = .ok after) :
    ∃ full, resolveName tablePrefix .on index.table = .ok full := by
  cases on : resolveName tablePrefix .on index.table with
  | ok full => exact ⟨full, rfl⟩
  | error fault =>
    rw [runStep_index, on] at ran
    cases own : resolveName tablePrefix .create index.name with
    | ok full =>
      rw [own] at ran
      cases ran
    | error other =>
      rw [own] at ran
      cases ran

theorem runSteps_append (tablePrefix : String) (db : Database) (first second : List SchemaStep) :
    runSteps tablePrefix db (first ++ second) =
      match runSteps tablePrefix db first with
      | (some fault, left) => (some fault, left)
      | (none, made) => runSteps tablePrefix made second := by
  induction first generalizing db with
  | nil => rfl
  | cons step rest ih =>
    rw [List.cons_append, runSteps_cons, runSteps_cons]
    cases runStep tablePrefix db step with
    | error fault => rfl
    | ok after => exact ih after

/-- Statements of which each gets through, whatever ran before. -/
theorem runSteps_map {α : Type} {step : α → SchemaStep} {effect : Database → α → Database} {items : List α}
    (through : ∀ db, ∀ item ∈ items, runStep tablePrefix db (step item) = .ok (effect db item)) (db : Database) :
    runSteps tablePrefix db (items.map step) = (none, items.foldl effect db) := by
  induction items generalizing db with
  | nil => rfl
  | cons item rest ih =>
    rw [List.map_cons, runSteps_cons, through db item List.mem_cons_self]
    exact ih (fun db other member => through db other (List.mem_cons_of_mem _ member)) _

/-- A run goes through only if each of its statements does. -/
theorem runStep_of_runSteps {steps : List SchemaStep} (through : (runSteps tablePrefix db steps).1 = none)
    {step : SchemaStep} (member : step ∈ steps) : ∃ db after, runStep tablePrefix db step = .ok after := by
  induction steps generalizing db with
  | nil => cases member
  | cons first rest ih =>
    rw [runSteps_cons] at through
    cases ran : runStep tablePrefix db first with
    | error fault =>
      rw [ran] at through
      cases through
    | ok after =>
      rw [ran] at through
      rcases List.mem_cons.mp member with rfl | later
      · exact ⟨db, after, ran⟩
      · exact ih through later

/-- Statements about the tables and indexes of a board. -/
def SchemaStep.Known : SchemaStep → Prop
  | .drop name => name ∈ Table.names
  | .create shape => shape ∈ Table.all
  | .index own => own ∈ allIndexes
  | .seed row => row ∈ Schema.seeds

theorem known_of_schemaSteps : ∀ step ∈ schemaSteps, step.Known := by
  simp only [schemaSteps, List.mem_append, List.mem_map]
  rintro step (((⟨name, known, rfl⟩ | ⟨shape, member, rfl⟩) | ⟨index, member, rfl⟩) | ⟨seed, member, rfl⟩)
  · exact known
  · exact member
  · exact List.mem_append.mpr member
  · exact member

theorem seeds_known : ∀ seed ∈ Schema.seeds, seed.table ∈ Table.names := by decide

namespace Serves

theorem runStep_drop (serves : s.Serves start) {name : String} (known : name ∈ Table.names) (db : Database) :
    runStep s.tablePrefix db (.drop name) =
      .ok (if isReserved start then db else db.drop (s.fullName name)) := by
  have wordy := wordy_of_known known
  rw [Sink.runStep_drop, serves.resolveName .drop wordy, serves.fullName wordy]
  simp only [master?_append start known, isReserved_append start known]

theorem runStep_create (serves : s.Serves start) {shape : Table} (member : shape ∈ Table.all) (db : Database) :
    runStep s.tablePrefix db (.create shape) =
      if isReserved start then .error (.reserved (start ++ shape.name))
      else .ok (db.createTable (s.fullName shape.name) shape) := by
  have known := Database.name_mem_names member
  have wordy := wordy_of_known known
  rw [Sink.runStep_create, serves.resolveName .create wordy, serves.fullName wordy]
  simp only [isReserved_append start known]

theorem runStep_index (serves : s.Serves start) {index : Index} (member : index ∈ allIndexes) (db : Database) :
    runStep s.tablePrefix db (.index index) =
      .ok (db.createIndex (s.fullName index.name) (s.fullName index.table)) := by
  have own := wordy_of_index member
  have table := wordy_of_known (table_mem_names member)
  rw [Sink.runStep_index, serves.resolveName .create own, serves.resolveName .on table, serves.fullName own,
    serves.fullName table]

theorem runStep_seed (serves : s.Serves start) {seed : Schema.Seed} (member : seed ∈ Schema.seeds)
    (db : Database) :
    runStep s.tablePrefix db (.seed seed) = .ok (db.seed (s.fullName seed.table) seed.row) := by
  have wordy := wordy_of_known (seeds_known seed member)
  rw [Sink.runStep_seed, serves.resolveName .write wordy, serves.fullName wordy]

theorem runSteps_eq (serves : s.Serves start) (free : isReserved start = false) (db : Database) :
    runSteps s.tablePrefix db schemaSteps = (none, db.provision s.fullName) := by
  have dropped (db : Database) : runSteps s.tablePrefix db (Table.names.map .drop) =
      (none, Table.names.foldl (fun db name => db.drop (s.fullName name)) db) := by
    refine runSteps_map (fun db name known => ?_) db
    rw [serves.runStep_drop known, free]
    rfl
  have created (db : Database) : runSteps s.tablePrefix db (Table.all.map .create) =
      (none, Table.all.foldl (fun db shape => db.createTable (s.fullName shape.name) shape) db) := by
    refine runSteps_map (fun db shape member => ?_) db
    rw [serves.runStep_create member, free]
    rfl
  have indexed (db : Database) : runSteps s.tablePrefix db (allIndexes.map .index) =
      (none, allIndexes.foldl (fun db index => db.createIndex (s.fullName index.name) (s.fullName index.table)) db) :=
    runSteps_map (fun db index member => serves.runStep_index member db) db
  have seeded (db : Database) : runSteps s.tablePrefix db (Schema.seeds.map .seed) =
      (none, Schema.seeds.foldl (fun db seed => db.seed (s.fullName seed.table) seed.row) db) :=
    runSteps_map (fun db seed member => serves.runStep_seed member db) db
  rw [schemaSteps, runSteps_append, runSteps_append, runSteps_append, dropped]
  dsimp only
  rw [created]
  dsimp only
  rw [← allIndexes, indexed]
  dsimp only
  rw [seeded, Database.provision, ← allIndexes]

/-- The first table with a reserved name is refused, and none was dropped before. -/
theorem runSteps_reserved (serves : s.Serves start) (reserved : isReserved start = true) (db : Database) :
    runSteps s.tablePrefix db schemaSteps = (some (.reserved (start ++ "bans")), db) := by
  have dropped : runSteps s.tablePrefix db (Table.names.map .drop) =
      (none, Table.names.foldl (fun db _ => db) db) := by
    refine runSteps_map (fun db name known => ?_) db
    rw [serves.runStep_drop known, reserved]
    rfl
  have kept : Table.names.foldl (fun db _ => db) db = db := by
    induction Table.names with
    | nil => rfl
    | cons name rest ih => exact ih
  have first := serves.runStep_create (by decide : Table.bans ∈ Table.all) db
  rw [if_pos reserved] at first
  have begins : Table.all = Table.bans :: Table.all.tail := rfl
  rw [schemaSteps, List.append_assoc, List.append_assoc, runSteps_append, dropped, kept]
  dsimp only
  rw [begins, List.map_cons, List.cons_append, runSteps_cons, first]
  rfl

/-- Whether tables are created is a matter of their names. -/
theorem provision_eq (serves : s.Serves start) : s.provision =
    if isReserved start then (.error (.refused .create (.reserved (start ++ "bans"))), s.noting false)
    else (.ok (), { s with database := s.database.provision s.fullName, categories := [], pending := false }) := by
  rw [provision, if_neg (by simp [serves.isOpen])]
  cases reserved : isReserved start with
  | true =>
    rw [serves.runSteps_reserved reserved]
    simp only [ite_self]
    rfl
  | false =>
    rw [serves.runSteps_eq reserved]
    rfl

end Serves

/-- Where no statement gets through, the first one is refused. -/
theorem Mute.runSteps_eq (mute : s.Mute) (db : Database) : ∃ parameter,
    runSteps s.tablePrefix db schemaSteps = (some (.unboundParameter parameter), db) := by
  obtain ⟨parameter, refused⟩ := mute.refuses "bans" (wordy_of_known (by decide))
  have fault : resolveName s.tablePrefix .drop "bans" = .error (.unboundParameter parameter) := by
    change readTable s.tablePrefix "bans" = _ at refused
    rw [resolveName, refused]
    rfl
  obtain ⟨rest, steps⟩ : ∃ rest, schemaSteps = .drop "bans" :: rest := ⟨_, rfl⟩
  exact ⟨parameter, by rw [steps, runSteps_cons, runStep_drop, fault]⟩

/-- Tables are created only behind a prefix that leaves their names alone. -/
theorem serves_of_runSteps (through : (runSteps tablePrefix db schemaSteps).1 = none) (there : Database) :
    ∃ start, (connect there tablePrefix).Serves start ∧ isReserved start = false := by
  have enclosed : Enclosed tablePrefix := by
    have member : SchemaStep.index Index.searchWords ∈ schemaSteps := by simp [schemaSteps]
    obtain ⟨before, after, ran⟩ := runStep_of_runSteps through member
    obtain ⟨full, on⟩ := resolveName_of_index ran
    exact enclosed_of_on (wordy_of_known (table_mem_names (by decide))) on
  rcases serves_or_refuses there enclosed with ⟨start, serves⟩ | mute
  · refine ⟨start, serves, ?_⟩
    by_contra reserved
    have refused := serves.runSteps_reserved ((Bool.not_eq_false _).mp reserved) db
    change runSteps tablePrefix db schemaSteps = _ at refused
    rw [refused] at through
    cases through
  · obtain ⟨parameter, stopped⟩ := mute.runSteps_eq db
    change runSteps tablePrefix db schemaSteps = _ at stopped
    rw [stopped] at through
    cases through

end Sink

/-- A database in which the tables of some names are gone and others have come. -/
def Database.exchanged (gone : List String) (made : List StoredTable) (db : Database) : Database :=
  let left := gone.foldl Database.drop db
  { left with tables := left.tables ++ made }

theorem Database.exchanged_nil (db : Database) : db.exchanged [] [] = db := by
  simp [exchanged]

namespace Sink

variable {s : Sink} {tablePrefix : String}

/-- Dropping a table fails, leaves all tables because the name is reserved or means none here, or drops one. -/
theorem runStep_drop_cases (tablePrefix : String) (db : Database) (name : String) :
    (∃ fault, runStep tablePrefix db (.drop name) = .error fault) ∨
    (runStep tablePrefix db (.drop name) = .ok db ∧
      ∀ full, resolveName tablePrefix .drop name = .ok full → isReserved full = true) ∨
    ∃ full, resolveName tablePrefix .drop name = .ok full ∧
      runStep tablePrefix db (.drop name) = .ok (db.drop full) := by
  cases resolved : resolveName tablePrefix .drop name with
  | error fault =>
    cases fault with
    | noSuchTable table => exact .inr (.inl ⟨by rw [runStep_drop, resolved], fun full other => nomatch other⟩)
    | _ => exact .inl ⟨_, by rw [runStep_drop, resolved]⟩
  | ok full =>
    cases master : master? full with
    | some table => exact .inl ⟨.undroppable table, by rw [runStep_drop, resolved]; simp only [master]⟩
    | none =>
      cases reserved : isReserved full with
      | true =>
        refine .inr (.inl ⟨by rw [runStep_drop, resolved]; simp [master, reserved], fun other same => ?_⟩)
        rw [← Except.ok.inj same, reserved]
      | false => exact .inr (.inr ⟨full, rfl, by rw [runStep_drop, resolved]; simp [master, reserved]⟩)

/-- Of the statements that drop tables some get through, and if all do, no table of theirs is left. -/
theorem runSteps_drops (tablePrefix : String) (db : Database) (names : List String) :
    ∃ gone : List String, (runSteps tablePrefix db (names.map .drop)).2 = gone.foldl Database.drop db ∧
      ((runSteps tablePrefix db (names.map .drop)).1 = none → ∀ name ∈ names, ∀ full,
        resolveName tablePrefix .drop name = .ok full → isReserved full = false → full ∈ gone) := by
  induction names generalizing db with
  | nil => exact ⟨[], rfl, fun _ name member => absurd member List.not_mem_nil⟩
  | cons name rest ih =>
    rw [List.map_cons, runSteps_cons]
    rcases runStep_drop_cases tablePrefix db name with ⟨fault, ran⟩ | ⟨ran, reserved⟩ | ⟨full, resolved, ran⟩
    · rw [ran]
      exact ⟨[], rfl, fun through => nomatch through⟩
    · rw [ran]
      obtain ⟨gone, left, all⟩ := ih db
      refine ⟨gone, left, fun through known member full same free => ?_⟩
      rcases List.mem_cons.mp member with rfl | later
      · exact absurd ((reserved full same).symm.trans free) (by decide)
      · exact all through known later full same free
    · rw [ran]
      obtain ⟨gone, left, all⟩ := ih (db.drop full)
      refine ⟨full :: gone, left, fun through known member other same free => ?_⟩
      rcases List.mem_cons.mp member with rfl | later
      · rw [← Except.ok.inj (resolved.symm.trans same)]
        exact List.mem_cons_self
      · exact List.mem_cons_of_mem _ (all through known later other same free)

/-- Of the statements that create tables the first ones get through. -/
theorem runSteps_creates (tablePrefix : String) (db : Database) (shapes : List Table) :
    ∃ made : List StoredTable, (runSteps tablePrefix db (shapes.map .create)).2 =
        { db with tables := db.tables ++ made } ∧
      made.map (·.shape) <+: shapes ∧
      ∀ t ∈ made, t.rows = [] ∧ resolveName tablePrefix .create t.shape.name = .ok t.name ∧
        isReserved t.name = false := by
  induction shapes generalizing db with
  | nil => exact ⟨[], by simp [runSteps], List.nil_prefix, fun t member => absurd member List.not_mem_nil⟩
  | cons shape rest ih =>
    rw [List.map_cons, runSteps_cons]
    cases ran : runStep tablePrefix db (.create shape) with
    | error fault => exact ⟨[], by simp, List.nil_prefix, fun t member => absurd member List.not_mem_nil⟩
    | ok after =>
      rw [runStep_create] at ran
      cases resolved : resolveName tablePrefix .create shape.name with
      | error fault =>
        rw [resolved] at ran
        cases ran
      | ok full =>
        rw [resolved] at ran
        dsimp only at ran
        by_cases reserved : isReserved full = true
        · rw [if_pos reserved] at ran
          cases ran
        · rw [if_neg reserved] at ran
          obtain rfl := Except.ok.inj ran
          obtain ⟨made, left, shapes, each⟩ := ih (db.createTable full shape)
          refine ⟨⟨full, shape, []⟩ :: made, ?_, ?_, ?_⟩
          · simpa [Database.createTable] using left
          · rw [List.map_cons]
            exact List.cons_prefix_cons.mpr ⟨rfl, shapes⟩
          · rw [List.forall_mem_cons]
            exact ⟨⟨rfl, resolved, Bool.eq_false_iff.mpr reserved⟩, each⟩

/-- What creating the tables leaves of a database: a new board, or what ran before a statement failed. Then
new tables have the names of tables that were dropped, and there are no new indexes. -/
inductive Provisions (s : Sink) : Database → Prop
  | whole {start : String} (serves : s.Serves start) (free : isReserved start = false) :
      Provisions s (s.database.provision s.fullName)
  | partway (gone : List String) (made : List StoredTable) (shapes : made.map (·.shape) <+: Table.all)
      (each : ∀ t ∈ made, t.rows = [] ∧ t.name ∈ gone ∧ ∃ start, t.name = start ++ t.shape.name) :
      Provisions s (s.database.exchanged gone made)

theorem Provisions.still (s : Sink) : s.Provisions s.database := by
  have same := Provisions.partway (s := s) [] [] List.nil_prefix fun t member => absurd member List.not_mem_nil
  rwa [Database.exchanged_nil] at same

/-- Where a prefix closes its quote, the first index is refused. -/
theorem runSteps_indexes_open (open_ : ¬Enclosed tablePrefix) (db : Database) (rest : List SchemaStep) :
    (runSteps tablePrefix db (allIndexes.map .index ++ rest)).2 = db := by
  obtain ⟨index, others, begins⟩ : ∃ index others, allIndexes = index :: others := ⟨_, _, rfl⟩
  have member : index ∈ allIndexes := begins ▸ List.mem_cons_self
  rw [begins, List.map_cons, List.cons_append, runSteps_cons]
  cases ran : runStep tablePrefix db (.index index) with
  | error fault => rfl
  | ok after =>
    obtain ⟨full, on⟩ := resolveName_of_index ran
    exact absurd (enclosed_of_on (wordy_of_known (table_mem_names member)) on) open_

/-- What a prefix that closes its quote leaves of a database. -/
theorem provisions_open (open_ : ¬Enclosed s.tablePrefix) :
    s.Provisions (runSteps s.tablePrefix s.database schemaSteps).2 := by
  obtain ⟨gone, left, all⟩ := runSteps_drops s.tablePrefix s.database Table.names
  have steps : schemaSteps = Table.names.map .drop ++
      (Table.all.map .create ++ (allIndexes.map .index ++ Schema.seeds.map .seed)) := by
    simp only [schemaSteps, allIndexes, List.append_assoc]
  rw [steps, runSteps_append]
  generalize runSteps s.tablePrefix s.database (Table.names.map .drop) = dropped at left all
  obtain ⟨fault, db⟩ := dropped
  obtain rfl : db = _ := left
  cases fault with
  | some fault =>
    have none : s.database.exchanged gone [] = gone.foldl Database.drop s.database := by simp [Database.exchanged]
    dsimp only
    rw [← none]
    exact .partway gone [] List.nil_prefix fun t member => absurd member List.not_mem_nil
  | none =>
    dsimp only
    obtain ⟨made, come, shapes, each⟩ := runSteps_creates s.tablePrefix (gone.foldl Database.drop s.database) Table.all
    have partway : s.Provisions (s.database.exchanged gone made) := by
      refine .partway gone made shapes fun t member => ?_
      obtain ⟨empty, resolved, free⟩ := each t member
      have known := Database.name_mem_names (shapes.subset (List.mem_map_of_mem member))
      obtain ⟨ends, dropped⟩ := resolveName_create (wordy_of_known known) resolved
      exact ⟨empty, all rfl _ known _ dropped free, ends⟩
    rw [runSteps_append]
    generalize runSteps s.tablePrefix (gone.foldl Database.drop s.database) (Table.all.map .create) = created at come
    obtain ⟨fault, db⟩ := created
    obtain rfl : db = s.database.exchanged gone made := come
    cases fault with
    | some fault => exact partway
    | none =>
      dsimp only
      rw [runSteps_indexes_open open_]
      exact partway

/-- Statement by statement, creating the tables leads to one of the two ends. -/
theorem provisions_runSteps (opened : s.isOpen = true) :
    s.Provisions (runSteps s.tablePrefix s.database schemaSteps).2 := by
  by_cases enclosed : Enclosed s.tablePrefix
  · rcases serves_or_refuses s.database enclosed with ⟨start, connected⟩ | mute
    · have serves : s.Serves start := ⟨opened, connected.reads⟩
      cases reserved : isReserved start with
      | true =>
        rw [serves.runSteps_reserved reserved]
        exact .still s
      | false =>
        rw [serves.runSteps_eq reserved]
        have whole := Provisions.whole serves reserved
        generalize s.database.provision s.fullName = made at whole ⊢
        exact whole
    · obtain ⟨parameter, stopped⟩ := mute.runSteps_eq s.database
      change runSteps s.tablePrefix s.database schemaSteps = _ at stopped
      rw [stopped]
      exact .still s
  · exact provisions_open enclosed

theorem provisions (s : Sink) : s.Provisions s.provision.2.database := by
  rw [provision]
  split
  · exact .still s
  · next opened =>
    have left := provisions_runSteps (s := s) (by simpa using opened)
    split
    · next ran =>
      rw [ran] at left
      dsimp only
      split
      · exact .still s
      · exact left
    · next ran =>
      rw [ran] at left
      exact left

end Sink
end BoardMigration.Store
