import BoardMigration.Proofs.Store.Calls
import BoardMigration.Proofs.Store.Worked

/-! Parts of a database. Gateways reach tables by their names alone. So a gateway whose tables are all in
one part does there what it would do if the part were the whole database, and one whose tables are all
elsewhere leaves the part as it is. -/
namespace BoardMigration.Store

open Schema (Table Index)

namespace Database

variable {own : String → Bool} {full : String → String} {db : Database} {name : String}

/-- The tables that are owned by their names without case, and their indexes. -/
def part (own : String → Bool) (db : Database) : Database where
  tables := db.tables.filter fun t => own (foldName t.name)
  indexes := db.indexes.filter fun i => own (foldName i.table)

theorem table?_part (here : own (foldName name) = true) : (db.part own).table? name = db.table? name := by
  rw [table?, table?, part, List.find?_filter]
  congr 1
  funext t
  by_cases same : foldName t.name = foldName name
  · simp [same, here]
  · simp [same]

theorem replace_part (db : Database) (t : StoredTable) :
    (db.replace t).part own = (db.part own).replace t := by
  have kept (u : StoredTable) :
      foldName (if foldName u.name == foldName t.name then t else u).name = foldName u.name := by
    split
    · next same => exact (beq_iff_eq.mp same).symm
    · rfl
  simp only [replace, part, List.filter_map, Function.comp_def, kept]

theorem replace_elsewhere {t : StoredTable} (other : own (foldName t.name) = false) :
    (db.replace t).part own = db.part own := by
  have kept : ∀ u ∈ (db.part own).tables, (if foldName u.name == foldName t.name then t else u) = u := by
    intro u member
    have here := (List.mem_filter.mp member).2
    rw [if_neg]
    intro same
    rw [beq_iff_eq.mp same, other] at here
    cases here
  rw [replace_part, replace, List.map_congr_left kept, List.map_id']

theorem drop_part (db : Database) (name : String) : (db.drop name).part own = (db.part own).drop name := by
  simp [drop, part, List.filter_filter, Bool.and_comm]

theorem drop_elsewhere (other : own (foldName name) = false) : (db.drop name).part own = db.part own := by
  have apart (title : String) (here : own title = true) : (title != foldName name) = true := by
    rw [bne_iff_ne]
    rintro rfl
    rw [other] at here
    cases here
  have tables : (db.part own).tables.filter (fun t => foldName t.name != foldName name) =
      (db.part own).tables := by
    rw [List.filter_eq_self]
    exact fun t member => apart _ (List.mem_filter.mp member).2
  have indexes : (db.part own).indexes.filter (fun i => foldName i.table != foldName name) =
      (db.part own).indexes := by
    rw [List.filter_eq_self]
    exact fun i member => apart _ (List.mem_filter.mp member).2
  rw [drop_part, drop, tables, indexes]

theorem createTable_part (here : own (foldName name) = true) (shape : Table) :
    (db.createTable name shape).part own = (db.part own).createTable name shape := by
  simp [createTable, part, here]

theorem createTable_elsewhere (other : own (foldName name) = false) (shape : Table) :
    (db.createTable name shape).part own = db.part own := by
  simp [createTable, part, other]

theorem createIndex_part {table : String} (here : own (foldName table) = true) (name : String) :
    (db.createIndex name table).part own = (db.part own).createIndex name table := by
  simp [createIndex, part, here]

theorem createIndex_elsewhere {table : String} (other : own (foldName table) = false) (name : String) :
    (db.createIndex name table).part own = db.part own := by
  simp [createIndex, part, other]

theorem seed_part (here : own (foldName name) = true) (row : Row) :
    (db.seed name row).part own = (db.part own).seed name row := by
  rw [seed, seed, table?_part here]
  cases db.table? name with
  | none => rfl
  | some t => exact replace_part db _

theorem seed_elsewhere (other : own (foldName name) = false) (row : Row) :
    (db.seed name row).part own = db.part own := by
  rw [seed]
  cases there : db.table? name with
  | none => rfl
  | some t =>
    apply replace_elsewhere
    rwa [t.insertIfAbsent_name, table?_name there]

section

variable {β : Type} {step : Database → β → Database} {l : List β}

theorem foldl_part (each : ∀ db, ∀ b ∈ l, (step db b).part own = step (db.part own) b) (db : Database) :
    (l.foldl step db).part own = l.foldl step (db.part own) := by
  induction l generalizing db with
  | nil => rfl
  | cons b rest ih =>
    rw [List.foldl_cons, List.foldl_cons, ← each db b List.mem_cons_self]
    exact ih (fun db b member => each db b (List.mem_cons_of_mem _ member)) _

theorem foldl_elsewhere (each : ∀ db, ∀ b ∈ l, (step db b).part own = db.part own) (db : Database) :
    (l.foldl step db).part own = db.part own := by
  induction l generalizing db with
  | nil => rfl
  | cons b rest ih =>
    rw [List.foldl_cons, ih (fun db b member => each db b (List.mem_cons_of_mem _ member))]
    exact each db b List.mem_cons_self

end

section

variable (inside : ∀ name ∈ Table.names, own (foldName (full name)) = true)

include inside

theorem renewed_part (db : Database) : (db.renewed full).part own = (db.part own).renewed full := by
  have cleared : (db.cleared full).part own = (db.part own).cleared full :=
    foldl_part (fun db name _ => drop_part db (full name)) db
  have created (db : Database) : (db.addTables full).part own = (db.part own).addTables full :=
    foldl_part (fun _ t member => createTable_part (inside t.name (name_mem_names member)) t) db
  have indexed (db : Database) : (db.addIndexes full).part own = (db.part own).addIndexes full :=
    foldl_part (fun _ index member =>
      createIndex_part (inside index.table (table_mem_names member)) (full index.name)) db
  rw [renewed, renewed, indexed, created, cleared]

/-- A board is created in a part as if there were nothing else. -/
theorem provision_part (db : Database) :
    (db.provision full).part own = (db.part own).provision full := by
  rw [provision_eq, provision_eq, ← renewed_part inside]
  exact foldl_part (fun db seed member => seed_part (inside seed.table (Sink.seeds_known seed member)) seed.row) _

end

section

variable (outside : ∀ name ∈ Table.names, own (foldName (full name)) = false)

include outside

theorem renewed_elsewhere (db : Database) : (db.renewed full).part own = db.part own := by
  have cleared : (db.cleared full).part own = db.part own :=
    foldl_elsewhere (fun _ name known => drop_elsewhere (outside name known)) db
  have created (db : Database) : (db.addTables full).part own = db.part own :=
    foldl_elsewhere (fun _ t member => createTable_elsewhere (outside t.name (name_mem_names member)) t) db
  have indexed (db : Database) : (db.addIndexes full).part own = db.part own :=
    foldl_elsewhere (fun _ index member =>
      createIndex_elsewhere (outside index.table (table_mem_names member)) (full index.name)) db
  rw [renewed, indexed, created, cleared]

/-- A board that is created elsewhere leaves a part as it is. -/
theorem provision_elsewhere (db : Database) : (db.provision full).part own = db.part own := by
  rw [provision_eq, ← renewed_elsewhere outside db]
  exact foldl_elsewhere
    (fun db seed member => seed_elsewhere (outside seed.table (Sink.seeds_known seed member)) seed.row) _

end

/-- In the part that its tables make up, a board is created as in an empty database. -/
theorem provision_anew (inside : ∀ name ∈ Table.names, own (foldName (full name)) = true)
    (only : ∀ title, own title = true → ∃ name ∈ Table.names, foldName (full name) = title)
    (db : Database) : (db.provision full).part own = Database.provision full {} := by
  have gone : (db.part own).cleared full = Database.cleared full {} := by
    have tables : ((db.part own).cleared full).tables = [] := by
      rw [List.eq_nil_iff_forall_not_mem]
      intro t member
      obtain ⟨here, others⟩ := mem_cleared_tables.mp member
      obtain ⟨name, known, same⟩ := only _ (List.mem_filter.mp here).2
      exact others name known same.symm
    have indexes : ((db.part own).cleared full).indexes = [] := by
      rw [List.eq_nil_iff_forall_not_mem]
      intro i member
      obtain ⟨here, others⟩ := mem_cleared_indexes.mp member
      obtain ⟨name, known, same⟩ := only _ (List.mem_filter.mp here).2
      exact others name known same.symm
    have empty : Database.cleared full {} = {} := by
      rw [Database.cleared, dropAll_eq]
      rfl
    rw [empty, ← tables, ← indexes]
  rw [provision_part inside, provision_eq, provision_eq, Database.renewed, Database.renewed, gone]

end Database

namespace Sink

/-- A gateway to a part of its database. -/
def part (own : String → Bool) (s : Sink) : Sink := { s with database := s.database.part own }

/-- A part holds all tables of a board. -/
def Inside (own : String → Bool) (tablePrefix : String) : Prop :=
  ∀ statement, ∀ name ∈ Table.names, ∀ full, resolveName tablePrefix statement name = .ok full →
    own (foldName full) = true

/-- A part holds no table of a board. -/
def Outside (own : String → Bool) (tablePrefix : String) : Prop :=
  ∀ statement, ∀ name ∈ Table.names, ∀ full, resolveName tablePrefix statement name = .ok full →
    own (foldName full) = false

variable {own : String → Bool} {s after : Sink}

theorem Receives.elsewhere (receives : s.Receives after) (outside : Outside own s.tablePrefix) :
    after.database.part own = s.database.part own := by
  induction receives with
  | none => rfl
  | row before known found given same =>
    obtain ⟨full, resolved, there⟩ := table_ok found
    rw [before.tablePrefix] at resolved
    rw [← same]
    apply Database.replace_elsewhere
    rw [StoredTable.insertIfAbsent_name, Database.table?_name there]
    exact outside _ _ known full resolved
  | remembered _ _ _ same => exact same
  | noted _ _ same => exact same

theorem table_part {statement : Statement} {name : String}
    (inside : ∀ full, resolveName s.tablePrefix statement name = .ok full → own (foldName full) = true) :
    (s.part own).table statement name = s.table statement name := by
  have named : (s.part own).tablePrefix = s.tablePrefix := rfl
  unfold Sink.table
  rw [named]
  cases read : readTable s.tablePrefix name with
  | error fault => rfl
  | ok reference =>
    dsimp only
    cases resolved : reference.resolve statement with
    | error fault => rfl
    | ok full =>
      have meant : resolveName s.tablePrefix statement name = .ok full := by
        rw [resolveName, read]
        exact resolved
      have same : (s.part own).database.table? full = s.database.table? full :=
        Database.table?_part (inside full meant)
      dsimp only
      rw [same]

theorem find_part (inside : Inside own s.tablePrefix) {name : String} (known : name ∈ Table.names)
    (criteria : Row) : (s.part own).find name criteria = s.find name criteria := by
  rw [find, find, table_part (inside .lookup name known)]

/-- What is answered, and the gateway to the part. -/
def toPart {α : Type} (own : String → Bool) (result : α × Sink) : α × Sink :=
  (result.1, result.2.part own)

theorem write_part (inside : Inside own s.tablePrefix) {name : String} (known : name ∈ Table.names)
    (row : Row) : (s.part own).write name row = toPart own (s.write name row) := by
  rw [write, write, table_part (inside .write name known)]
  cases s.table .write name with
  | error obstacle => rfl
  | ok t =>
    have own_ : (s.part own).given t name row = s.given t name row := rfl
    dsimp only
    rw [own_]
    cases s.given t name row with
    | error fault => rfl
    | ok row =>
      dsimp only
      split
      · rfl
      · simp [toPart, part, Database.replace_part]

theorem resolveCategory_part (inside : Inside own s.tablePrefix) (key : CategoryKey) :
    (s.part own).resolveCategory key = toPart own (s.resolveCategory key) := by
  have known : "categories" ∈ Table.names := by decide
  have cached : (s.part own).known? key = s.known? key := rfl
  rw [resolveCategory, resolveCategory, cached, find_part inside known,
    table_part (inside .write _ known)]
  cases s.known? key with
  | some number => rfl
  | none =>
    cases s.find "categories" (categoryRow key) with
    | error obstacle => rfl
    | ok found =>
      cases found with
      | some number => rfl
      | none =>
        cases s.table .write "categories" with
        | error obstacle => rfl
        | ok t =>
          dsimp only
          split
          · rfl
          · simp [toPart, part, remember, Database.replace_part]

theorem writeRedirect_part (inside : Inside own s.tablePrefix) (row : Row) :
    (s.part own).writeRedirect row = toPart own (s.writeRedirect row) := by
  have known : "forums" ∈ Table.names := by decide
  simp only [writeRedirect, find_part inside known, table_part (inside .lookup _ known),
    write_part inside known]
  cases s.find "forums" [("forum_name", row.value "forum_name"), ("redirect_url", row.value "redirect_url")] with
  | error obstacle => rfl
  | ok found =>
    cases s.table .lookup "forums" with
    | error obstacle => rfl
    | ok t =>
      cases found with
      | some number => rfl
      | none =>
        dsimp only
        generalize s.write "forums" _ = written
        obtain ⟨answer, after⟩ := written
        cases answer <;> rfl

theorem writeForum_part (inside : Inside own s.tablePrefix) (forum : Forum) :
    (s.part own).writeForum forum = toPart own (s.writeForum forum) := by
  have known : "forums" ∈ Table.names := by decide
  have same := (s.receives_resolveCategory (forum.categoryName, forum.categoryPosition)).tablePrefix
  rw [writeForum, writeForum, resolveCategory_part inside]
  generalize s.resolveCategory (forum.categoryName, forum.categoryPosition) = resolved at same
  obtain ⟨answer, after⟩ := resolved
  cases answer with
  | error obstacle => rfl
  | ok found =>
    have still : Inside own after.tablePrefix := by rwa [same]
    dsimp only [toPart]
    split
    · exact writeRedirect_part still _
    · exact write_part still known _

theorem writeRecord_part (inside : Inside own s.tablePrefix) (record : Record) :
    (s.part own).writeRecord record = toPart own (s.writeRecord record) := by
  cases record with
  | category c =>
    rw [writeRecord, writeRecord, resolveCategory_part inside]
    generalize s.resolveCategory (c.name, c.position) = resolved
    obtain ⟨answer, after⟩ := resolved
    cases answer <;> rfl
  | forum f => exact writeForum_part inside f
  | topic t => exact write_part inside (by decide : "topics" ∈ Table.names) _
  | post p => exact write_part inside (by decide : "posts" ∈ Table.names) _
  | user u => exact write_part inside (by decide : "users" ∈ Table.names) _

theorem insert_part (inside : Inside own s.tablePrefix) (record : Record) :
    (s.part own).insert record = toPart own (s.insert record) := by
  have open_ : (s.part own).isOpen = s.isOpen := rfl
  rw [insert, insert, open_, writeRecord_part inside]
  generalize s.writeRecord record = written
  obtain ⟨answer, after⟩ := written
  cases s.isOpen <;> rfl

theorem categoryId_part (inside : Inside own s.tablePrefix) (name : String) (position : Int) :
    (s.part own).categoryId name position = toPart own (s.categoryId name position) := by
  have open_ : (s.part own).isOpen = s.isOpen := rfl
  rw [categoryId, categoryId, open_, resolveCategory_part inside]
  generalize s.resolveCategory (name, position) = resolved
  obtain ⟨answer, after⟩ := resolved
  cases s.isOpen <;> rfl

theorem count_part {name : String}
    (inside : ∀ full, resolveName s.tablePrefix .count name = .ok full → own (foldName full) = true) :
    (s.part own).count name = toPart own (s.count name) := by
  have open_ : (s.part own).isOpen = s.isOpen := rfl
  rw [count, count, open_, table_part inside]
  cases s.isOpen <;> rfl

variable {tablePrefix : String} {db : Database}

/-- A statement about the tables of a part does there what it does in the whole. -/
theorem runStep_part (inside : Inside own tablePrefix) {step : SchemaStep} (known : step.Known) :
    runStep tablePrefix (db.part own) step = (runStep tablePrefix db step).map (·.part own) := by
  cases step with
  | drop name =>
    rw [runStep_drop, runStep_drop]
    cases resolveName tablePrefix .drop name with
    | error fault => cases fault <;> rfl
    | ok full =>
      dsimp only
      cases master? full with
      | some master => rfl
      | none =>
        dsimp only
        split
        · rfl
        · rw [← Database.drop_part]
          rfl
  | create shape =>
    rw [runStep_create, runStep_create]
    cases resolved : resolveName tablePrefix .create shape.name with
    | error fault => rfl
    | ok full =>
      have here := inside .create _ (Database.name_mem_names known) full resolved
      dsimp only
      split
      · rfl
      · rw [← Database.createTable_part here]
        rfl
  | index index =>
    rw [runStep_index, runStep_index]
    cases resolveName tablePrefix .create index.name with
    | error fault => rfl
    | ok full =>
      cases resolved : resolveName tablePrefix .on index.table with
      | error fault => rfl
      | ok table =>
        have here := inside .on _ (table_mem_names known) table resolved
        dsimp only
        rw [← Database.createIndex_part here]
        rfl
  | seed seed =>
    rw [runStep_seed, runStep_seed]
    cases resolved : resolveName tablePrefix .write seed.table with
    | error fault => rfl
    | ok full =>
      have here := inside .write _ (seeds_known seed known) full resolved
      dsimp only
      rw [← Database.seed_part here]
      rfl

/-- A statement about tables elsewhere leaves a part as it is. -/
theorem runStep_elsewhere (outside : Outside own tablePrefix) {step : SchemaStep} (known : step.Known)
    {after : Database} (ran : runStep tablePrefix db step = .ok after) : after.part own = db.part own := by
  cases step with
  | drop name =>
    rw [runStep_drop] at ran
    split at ran
    · rw [← Except.ok.inj ran]
    · cases ran
    · next full resolved =>
      have other := outside .drop name known full resolved
      split at ran
      · cases ran
      · rw [← Except.ok.inj ran]
        split
        · rfl
        · exact Database.drop_elsewhere other
  | create shape =>
    rw [runStep_create] at ran
    split at ran
    · cases ran
    · next full resolved =>
      have other := outside .create _ (Database.name_mem_names known) full resolved
      split at ran
      · cases ran
      · rw [← Except.ok.inj ran]
        exact Database.createTable_elsewhere other shape
  | index index =>
    rw [runStep_index] at ran
    split at ran
    · next full table _ resolved =>
      have other := outside .on _ (table_mem_names known) table resolved
      rw [← Except.ok.inj ran]
      exact Database.createIndex_elsewhere other full
    · cases ran
    · cases ran
  | seed seed =>
    rw [runStep_seed] at ran
    split at ran
    · cases ran
    · next full resolved =>
      have other := outside .write _ (seeds_known seed known) full resolved
      rw [← Except.ok.inj ran]
      exact Database.seed_elsewhere other seed.row

theorem runSteps_part (inside : Inside own tablePrefix) {steps : List SchemaStep}
    (known : ∀ step ∈ steps, step.Known) (db : Database) :
    runSteps tablePrefix (db.part own) steps =
      ((runSteps tablePrefix db steps).1, (runSteps tablePrefix db steps).2.part own) := by
  induction steps generalizing db with
  | nil => rfl
  | cons step rest ih =>
    rw [List.forall_mem_cons] at known
    rw [runSteps_cons, runSteps_cons, runStep_part inside known.1]
    cases runStep tablePrefix db step with
    | error fault => rfl
    | ok after => exact ih known.2 after

theorem runSteps_elsewhere (outside : Outside own tablePrefix) {steps : List SchemaStep}
    (known : ∀ step ∈ steps, step.Known) (db : Database) :
    (runSteps tablePrefix db steps).2.part own = db.part own := by
  induction steps generalizing db with
  | nil => rfl
  | cons step rest ih =>
    rw [List.forall_mem_cons] at known
    rw [runSteps_cons]
    cases ran : runStep tablePrefix db step with
    | error fault => rfl
    | ok after => exact (ih known.2 after).trans (runStep_elsewhere outside known.1 ran)

theorem provision_part (inside : Inside own s.tablePrefix) :
    (s.part own).provision = toPart own s.provision := by
  have open_ : (s.part own).isOpen = s.isOpen := rfl
  have ran : runSteps (s.part own).tablePrefix (s.part own).database schemaSteps = _ :=
    runSteps_part inside known_of_schemaSteps s.database
  rw [provision, provision, open_, ran]
  generalize runSteps s.tablePrefix s.database schemaSteps = outcome
  obtain ⟨fault, left⟩ := outcome
  cases s.isOpen with
  | false => rfl
  | true =>
    cases fault with
    | none => rfl
    | some fault =>
      obtain ⟨db, tablePrefix, isOpen, categories, pending⟩ := s
      cases pending <;> rfl

theorem provision_elsewhere (outside : Outside own s.tablePrefix) :
    s.provision.2.database.part own = s.database.part own := by
  have ran := runSteps_elsewhere outside known_of_schemaSteps s.database
  rw [provision]
  generalize runSteps s.tablePrefix s.database schemaSteps = outcome at ran
  obtain ⟨fault, left⟩ := outcome
  split
  · rfl
  · cases fault with
    | none => exact ran
    | some fault =>
      dsimp only
      split
      · rfl
      · exact ran

end Sink

namespace Call

variable {own : String → Bool} {s : Sink}

theorem after_part (inside : Sink.Inside own s.tablePrefix) (call : Call) :
    call.after (s.part own) = (call.after s).part own := by
  cases call with
  | operation op =>
    cases op with
    | provision => exact congrArg Prod.snd (Sink.provision_part inside)
    | insert record => exact congrArg Prod.snd (Sink.insert_part inside record)
    | categoryId name position => exact congrArg Prod.snd (Sink.categoryId_part inside name position)
    | close => rfl
  | count name =>
    rw [after, after, Sink.count_snd, Sink.count_snd]
    change (if s.isOpen then (s.noting false).part own else s.part own) = _
    rw [apply_ite (Sink.part own)]
  | reconnect => rfl

/-- A part answers what concerns its tables. -/
theorem answer_part (inside : Sink.Inside own s.tablePrefix) {call : Call}
    (counted : ∀ name, call = .count name → ∀ full,
      resolveName s.tablePrefix .count name = .ok full → own (foldName full) = true) :
    call.answer (s.part own) = call.answer s := by
  cases call with
  | operation op =>
    cases op with
    | provision => rw [answer, answer, Sink.provision_part inside, Sink.toPart]
    | insert record => rw [answer, answer, Sink.insert_part inside, Sink.toPart]
    | categoryId name position => rw [answer, answer, Sink.categoryId_part inside, Sink.toPart]
    | close => rfl
  | count name => rw [answer, answer, Sink.count_part (counted name rfl), Sink.toPart]
  | reconnect => rfl

theorem after_elsewhere (outside : Sink.Outside own s.tablePrefix) (call : Call) :
    (call.after s).database.part own = s.database.part own := by
  cases call with
  | operation op =>
    cases op with
    | provision => exact Sink.provision_elsewhere outside
    | insert record => exact (s.receives_insert record).elsewhere outside
    | categoryId name position => exact (s.receives_categoryId name position).elsewhere outside
    | close => rfl
  | count name =>
    rw [after, Sink.count_snd]
    split <;> rfl
  | reconnect => rfl

end Call

variable {p q : String}

theorem Plain.inside (plain : Plain p) : Sink.Inside (ownedBy p) p := by
  intro statement name known full resolved
  rw [plain.resolveName (wordy_of_known known)] at resolved
  rw [← Except.ok.inj resolved]
  exact ownedBy_of_known p known

theorem Plain.outside (plain : Plain p) (apart : foldName p ≠ foldName q) :
    Sink.Outside (ownedBy q) p := by
  intro statement name known full resolved
  rw [plain.resolveName (wordy_of_known known)] at resolved
  rw [← Except.ok.inj resolved, ← Bool.not_eq_true, ownedBy_iff]
  rintro ⟨other, also, same⟩
  exact apart_objects apart (List.mem_append_left _ known) (List.mem_append_left _ also) same.symm

end BoardMigration.Store
