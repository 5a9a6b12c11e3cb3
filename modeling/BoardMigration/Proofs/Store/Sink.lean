import BoardMigration.Proofs.Store.Database
import BoardMigration.Proofs.Store.Naming
import BoardMigration.Store.Sink

/-! What a gateway does to the tables of a board. Topics, posts and users bring their numbers, so their
tables keep the first row of each number; categories and forums go into tables of their own. -/
namespace BoardMigration.Store

open Schema (Table)

theorem wordy_of_known {name : String} (known : name ∈ Table.names) : Wordy name.toList := by
  have plain : (Table.names.all fun name =>
      !name.toList.isEmpty && name.toList.all Text.isWordChar) = true := by
    decide +kernel
  have here := List.all_eq_true.mp plain name known
  simp only [Bool.and_eq_true, List.all_eq_true] at here
  exact ⟨by simpa using here.1, here.2⟩

namespace Sink

/-- Name of a table that is written to. -/
def fullName (s : Sink) (name : String) : String :=
  match resolveName s.tablePrefix .write name with
  | .ok full => full
  | .error _ => s.tablePrefix ++ name

@[simp]
theorem noting_database (s : Sink) (pending : Bool) : (s.noting pending).database = s.database := rfl

theorem insertPending_sql (s : Sink) (record : Record) (fault : SqlFault) :
    s.insertPending record (.error (.sql fault)) = false := by
  cases record <;> rfl

/-- An open gateway whose names all begin with `start`. -/
structure Serves (s : Sink) (start : String) : Prop where
  isOpen : s.isOpen = true
  reads : ∀ name, Wordy name.toList → readTable s.tablePrefix name = .ok { name := start ++ name }

theorem Serves.resolveName {s : Sink} {start : String} (serves : s.Serves start) (statement : Statement)
    {name : String} (wordy : Wordy name.toList) :
    Store.resolveName s.tablePrefix statement name = .ok (start ++ name) := by
  rw [Store.resolveName, serves.reads name wordy]
  cases statement <;> rfl

theorem Serves.names {s : Sink} {start : String} (serves : s.Serves start) :
    ∀ statement, ∀ name ∈ Table.names, Store.resolveName s.tablePrefix statement name = .ok (start ++ name) :=
  fun statement _ known => serves.resolveName statement (wordy_of_known known)

theorem Serves.start_unique {s : Sink} {a b : String} (one : s.Serves a) (other : s.Serves b) : a = b := by
  have same := (one.names .drop "bans" (by decide)).symm.trans (other.names .drop "bans" (by decide))
  have appended := congrArg String.toList (Except.ok.inj same)
  rw [String.toList_append, String.toList_append] at appended
  exact String.toList_inj.mp (List.append_cancel_right appended)

theorem Serves.fullName {s : Sink} {start : String} (serves : s.Serves start) {name : String}
    (wordy : Wordy name.toList) : s.fullName name = start ++ name := by
  rw [Sink.fullName, serves.resolveName .write wordy]

theorem Serves.connect {db : Database} {tablePrefix start : String} (serves : (connect db tablePrefix).Serves start)
    (other : Database) : (Sink.connect other tablePrefix).Serves start := ⟨rfl, serves.reads⟩

/-- New tables are there, whatever was there before. -/
theorem Serves.table?_provision {s : Sink} {start : String} (serves : s.Serves start) {shape : Table}
    (member : shape ∈ Table.all) :
    (s.database.provision s.fullName).table? (start ++ shape.name) =
      some (Database.seeded s.fullName shape) := by
  have apart : Database.Apart s.fullName := by
    intro a known b other same
    rw [serves.fullName (wordy_of_known known), serves.fullName (wordy_of_known other)] at same
    exact Database.apart_start start a known b other same
  have there := Database.table?_provision apart s.database member
  rwa [serves.fullName (wordy_of_known (Database.name_mem_names member))] at there

/-- A gateway whose prefix holds a parameter, so that no statement gets through. It has met no category and
begun no transaction. -/
structure Mute (s : Sink) : Prop where
  refuses : ∀ name, Wordy name.toList → ∃ parameter,
    readTable s.tablePrefix name = .error (.unboundParameter parameter)
  fresh : s.categories = []
  settled : s.pending = false

/-- A prefix that keeps to its quotes leaves all names alone, or no statement gets through. -/
theorem serves_or_refuses (db : Database) {tablePrefix : String} (enclosed : Enclosed tablePrefix) :
    (∃ start, (connect db tablePrefix).Serves start) ∨ (connect db tablePrefix).Mute := by
  rcases enclosed.readTable with ⟨start, reads⟩ | refuses
  · exact .inl ⟨start, rfl, reads⟩
  · exact .inr ⟨refuses, rfl, rfl⟩

namespace Mute

variable {s : Sink}

theorem noting (mute : s.Mute) : s.noting false = s := by
  rw [← mute.settled]
  rfl

theorem table (mute : s.Mute) (statement : Statement) {name : String} (known : name ∈ Table.names) :
    ∃ fault, s.table statement name = .error (.sql fault) := by
  obtain ⟨parameter, refused⟩ := mute.refuses name (wordy_of_known known)
  exact ⟨.unboundParameter parameter, by simp [Sink.table, refused]⟩

theorem write (mute : s.Mute) {name : String} (known : name ∈ Table.names) (row : Row) :
    ∃ fault, s.write name row = (.error (.sql fault), s) := by
  obtain ⟨fault, refused⟩ := mute.table .write known
  exact ⟨fault, by simp [Sink.write, refused]⟩

theorem resolveCategory (mute : s.Mute) (key : CategoryKey) :
    ∃ fault, s.resolveCategory key = (.error (.sql fault), s) := by
  obtain ⟨fault, refused⟩ := mute.table .lookup (by decide : "categories" ∈ Table.names)
  have fresh : s.known? key = none := by simp [known?, mute.fresh]
  exact ⟨fault, by simp [Sink.resolveCategory, fresh, find, refused]⟩

theorem writeRecord (mute : s.Mute) (record : Record) :
    ∃ fault, s.writeRecord record = (.error (.sql fault), s) := by
  cases record with
  | category c =>
    obtain ⟨fault, refused⟩ := mute.resolveCategory (c.name, c.position)
    exact ⟨fault, by simp [Sink.writeRecord, refused]⟩
  | forum f =>
    obtain ⟨fault, refused⟩ := mute.resolveCategory (f.categoryName, f.categoryPosition)
    exact ⟨fault, by simp [Sink.writeRecord, writeForum, refused]⟩
  | topic t => exact mute.write (by decide : "topics" ∈ Table.names) _
  | post p => exact mute.write (by decide : "posts" ∈ Table.names) _
  | user u => exact mute.write (by decide : "users" ∈ Table.names) _

/-- Every record is answered with an error, and leaves the gateway as it is. -/
theorem insert (mute : s.Mute) (record : Record) : ∃ error, s.insert record = (.error error, s) := by
  obtain ⟨fault, refused⟩ := mute.writeRecord record
  rw [Sink.insert]
  split
  · exact ⟨_, rfl⟩
  · rw [refused]
    refine ⟨_, Prod.ext rfl ?_⟩
    change s.noting (s.insertPending record (.error (.sql fault))) = s
    rw [insertPending_sql, mute.noting]

end Mute

/-- A gateway after an operation that changes some of the board's tables only. -/
structure Keeps (start : String) (changed : List String) (s after : Sink) : Prop where
  isOpen : after.isOpen = s.isOpen
  tablePrefix : after.tablePrefix = s.tablePrefix
  others : ∀ name ∈ Table.names, name ∉ changed →
    after.database.table? (start ++ name) = s.database.table? (start ++ name)

variable {s after : Sink} {start : String} {changed : List String}

theorem Keeps.refl : Keeps start changed s s := ⟨rfl, rfl, fun _ _ _ => rfl⟩

theorem Keeps.trans {last : Sink} (first : Keeps start changed s after)
    (second : Keeps start changed after last) : Keeps start changed s last where
  isOpen := second.isOpen.trans first.isOpen
  tablePrefix := second.tablePrefix.trans first.tablePrefix
  others := fun name known apart =>
    (second.others name known apart).trans (first.others name known apart)

theorem Keeps.mono {more : List String} (keeps : Keeps start changed s after)
    (within : changed ⊆ more) : Keeps start more s after :=
  { keeps with others := fun name known apart => keeps.others name known (mt (within ·) apart) }

theorem Keeps.remember (keeps : Keeps start changed s after) (key : CategoryKey) (number : Int) :
    Keeps start changed s (after.remember key number) :=
  ⟨keeps.isOpen, keeps.tablePrefix, keeps.others⟩

theorem Keeps.noting (keeps : Keeps start changed s after) (pending : Bool) :
    Keeps start changed s (after.noting pending) :=
  ⟨keeps.isOpen, keeps.tablePrefix, keeps.others⟩

theorem Serves.keeps (serves : s.Serves start) (keeps : Keeps start changed s after) :
    after.Serves start where
  isOpen := keeps.isOpen.trans serves.isOpen
  reads := by
    rw [keeps.tablePrefix]
    exact serves.reads

theorem Serves.table (serves : s.Serves start) {name : String} (known : name ∈ Table.names)
    (statement : Statement) :
    s.table statement name =
      match s.database.table? (start ++ name) with
      | some t => .ok t
      | none => .error (.sql (.noSuchTable (start ++ name))) := by
  have read := serves.reads name (wordy_of_known known)
  have resolved : Reference.resolve { name := start ++ name } statement = .ok (start ++ name) := by
    cases statement <;> rfl
  simp only [Sink.table, read, resolved]
  cases s.database.table? (start ++ name) <;> rfl

/-- No prefix that leaves names alone brings columns of its own. -/
theorem Serves.given (serves : s.Serves start) (t : StoredTable) {name : String} (known : name ∈ Table.names)
    (row : Row) : s.given t name row = .ok row := by
  rw [Sink.given, serves.reads name (wordy_of_known known)]
  rfl

theorem Serves.write_eq (serves : s.Serves start) {name : String} (known : name ∈ Table.names)
    (row : Row) :
    s.write name row =
      match s.database.table? (start ++ name) with
      | none => (.error (.sql (.noSuchTable (start ++ name))), s)
      | some t =>
        if row.fits then
          (.ok (t.insertIfAbsent row).2,
            { s with database := s.database.replace (t.insertIfAbsent row).1 })
        else (.error .overflow, s) := by
  rw [write, serves.table known]
  cases s.database.table? (start ++ name) with
  | none => rfl
  | some t =>
    simp only [serves.given t known]
    cases row.fits <;> rfl

/-- Replacing a table keeps those of other names. -/
theorem keeps_replace {name : String} (known : name ∈ Table.names) {t new : StoredTable}
    (same : new.name = t.name) (found : s.database.table? (start ++ name) = some t) :
    Keeps start [name] s { s with database := s.database.replace new } where
  isOpen := rfl
  tablePrefix := rfl
  others := by
    intro other also apart
    have differs : foldName new.name ≠ foldName (start ++ other) := by
      rw [same, Database.table?_name found]
      intro folded
      have one := Database.apart_start start name known other also folded
      exact apart (List.mem_singleton.mpr one.symm)
    rw [Database.table?_replace, if_neg differs]

theorem Serves.keeps_write (serves : s.Serves start) {name : String} (known : name ∈ Table.names)
    (row : Row) : Keeps start [name] s (s.write name row).2 := by
  rw [serves.write_eq known]
  cases found : s.database.table? (start ++ name) with
  | none => exact .refl
  | some t =>
    dsimp only
    split
    · exact keeps_replace known (t.insertIfAbsent_name row) found
    · exact .refl

/-- A table that is written to holds the row unless it does not fit. -/
theorem Serves.table?_write (serves : s.Serves start) {name : String} (known : name ∈ Table.names)
    (row : Row) {t : StoredTable} (found : s.database.table? (start ++ name) = some t) :
    (s.write name row).2.database.table? (start ++ name) =
      some (if row.fits then (t.insertIfAbsent row).1 else t) := by
  rw [serves.write_eq known, found]
  cases fits : row.fits with
  | false => simpa using found
  | true =>
    have named : foldName (t.insertIfAbsent row).1.name = foldName (start ++ name) := by
      rw [t.insertIfAbsent_name, Database.table?_name found]
    simp [Database.table?_replace, named, found]

theorem Serves.keeps_resolveCategory (serves : s.Serves start) (key : CategoryKey) :
    Keeps start ["categories"] s (s.resolveCategory key).2 := by
  have known : "categories" ∈ Table.names := by decide
  rw [resolveCategory]
  split
  · exact .refl
  · split
    · exact .refl
    · exact Keeps.refl.remember key _
    · rw [serves.table known]
      cases found : s.database.table? (start ++ "categories") with
      | none => exact .refl
      | some t =>
        dsimp only
        split
        · exact .refl
        · exact (keeps_replace known (t.insertIfAbsent_name _) found).remember key _

theorem Serves.keeps_writeRedirect (serves : s.Serves start) (row : Row) :
    Keeps start ["forums"] s (s.writeRedirect row).2 := by
  have known : "forums" ∈ Table.names := by decide
  rw [writeRedirect]
  dsimp only
  split
  · exact .refl
  · exact .refl
  · exact .refl
  · split
    all_goals
      next written =>
        have same := congrArg Prod.snd written
        rw [← same]
        exact serves.keeps_write known _

theorem Serves.keeps_writeForum (serves : s.Serves start) (forum : Forum) :
    Keeps start ["categories", "forums"] s (s.writeForum forum).2 := by
  have known : "forums" ∈ Table.names := by decide
  have first : Keeps start ["categories", "forums"] s _ :=
    (serves.keeps_resolveCategory (forum.categoryName, forum.categoryPosition)).mono (by simp)
  rw [writeForum]
  split
  · next resolved =>
    rw [resolved] at first
    exact first
  · next resolved =>
    rw [resolved] at first
    have serving := serves.keeps first
    dsimp only
    split
    · exact first.trans ((serving.keeps_writeRedirect _).mono (by simp))
    · exact first.trans ((serving.keeps_write known _).mono (by simp))

/-- Tables whose rows bring their numbers. -/
def numbered : List Table := [Table.topics, Table.posts, Table.users]

/-- The row that a record is stored as in a table, if it is one for that table and can be stored. -/
def stored? (shape : Table) (record : Record) : Option Row :=
  let row := (StoredTable.blank shape).complete record.row
  if record.table == shape.name && Row.fits record.row && !(StoredTable.blank shape).lacks row then
    some row
  else none

theorem keyed_of_numbered {shape : Table} (member : shape ∈ numbered) :
    shape ∈ Table.all ∧ shape.key = ["id"] ∧
    ∀ column ∈ shape.columns, column.kind = .key → column.name = "id" := by
  revert member shape
  decide

/-- The tables of records other than categories and forums. -/
theorem number_of_numbered {shape : Table} (member : shape ∈ numbered) {record : Record}
    (here : record.table = shape.name) :
    (∀ s : Sink, s.writeRecord record = s.write record.table record.row) ∧
    ∃ n, record.row.find? (·.1 == "id") = some ("id", .int n) := by
  have apart : shape.name ≠ "categories" ∧ shape.name ≠ "forums" := by
    clear here
    revert member shape
    decide
  cases record with
  | category c => exact absurd here.symm apart.1
  | forum f => exact absurd here.symm apart.2
  | topic t => exact ⟨fun _ => rfl, t.id, rfl⟩
  | post p => exact ⟨fun _ => rfl, p.id, rfl⟩
  | user u => exact ⟨fun _ => rfl, u.id, rfl⟩

/-- Tables that an insert of a record may change. -/
def touched (record : Record) : List String :=
  match record with
  | .forum _ => ["categories", "forums"]
  | record => [record.table]

theorem touched_of_numbered {shape : Table} (member : shape ∈ numbered) {record : Record}
    (other : record.table ≠ shape.name) : shape.name ∉ touched record := by
  intro changed
  cases record with
  | forum f =>
    change shape.name ∈ ["categories", "forums"] at changed
    clear other
    revert member shape
    decide
  | _ => exact other (List.mem_singleton.mp changed).symm

theorem Serves.keeps_writeRecord (serves : s.Serves start) (record : Record) :
    Keeps start (touched record) s (s.writeRecord record).2 := by
  cases record with
  | category c =>
    have keeps := serves.keeps_resolveCategory (c.name, c.position)
    rw [writeRecord]
    split
    · next resolved => rwa [resolved] at keeps
    · next resolved => rwa [resolved] at keeps
  | forum f => exact serves.keeps_writeForum f
  | topic t => exact serves.keeps_write (by decide : "topics" ∈ Table.names) _
  | post p => exact serves.keeps_write (by decide : "posts" ∈ Table.names) _
  | user u => exact serves.keeps_write (by decide : "users" ∈ Table.names) _

theorem Serves.insert_eq (serves : s.Serves start) (record : Record) :
    (s.insert record).2 =
      (s.writeRecord record).2.noting (s.insertPending record (s.writeRecord record).1) := by
  rw [insert, if_neg (by simp [serves.isOpen])]

theorem Serves.insert_answer (serves : s.Serves start) (record : Record) :
    (s.insert record).1 = (s.writeRecord record).1.mapError (Obstacle.toError (.insert record.table)) := by
  rw [insert, if_neg (by simp [serves.isOpen])]

theorem Serves.keeps_insert (serves : s.Serves start) (record : Record) :
    Keeps start (touched record) s (s.insert record).2 := by
  rw [serves.insert_eq]
  exact (serves.keeps_writeRecord record).noting _

/-- An insert adds the record to its table unless its number is taken. -/
theorem Serves.table?_insert (serves : s.Serves start) {t : StoredTable} (member : t.shape ∈ numbered)
    (found : s.database.table? (start ++ t.shape.name) = some t) (record : Record) :
    (s.insert record).2.database.table? (start ++ t.shape.name) = some { t with
      rows := keepFirst (StoredTable.keyOf t.shape) t.rows (stored? t.shape record).toList } := by
  obtain ⟨listed, key, onlyId⟩ := keyed_of_numbered member
  have known := Database.name_mem_names listed
  by_cases here : record.table = t.shape.name
  · obtain ⟨written, n, number⟩ := number_of_numbered member here
    have complete : t.complete record.row = (StoredTable.blank t.shape).complete record.row := by
      apply t.complete_numbered
      intro column inside isKey
      exact ⟨n, by rw [onlyId column inside isKey]; exact number⟩
    have lacks : t.lacks = (StoredTable.blank t.shape).lacks := rfl
    rw [serves.insert_eq, noting_database, written, here, serves.table?_write known _ found,
      t.insertIfAbsent_keep (by simp [key]), complete, lacks]
    simp only [stored?, here, beq_self_eq_true, Bool.true_and]
    cases fits : Row.fits record.row with
    | false => rfl
    | true =>
      cases (StoredTable.blank t.shape).lacks ((StoredTable.blank t.shape).complete record.row) <;> rfl
  · have none : stored? t.shape record = none := by simp [stored?, here]
    have untouched := touched_of_numbered member here
    rw [(serves.keeps_insert record).others t.shape.name known untouched, found, none]
    rfl

end Sink
end BoardMigration.Store
