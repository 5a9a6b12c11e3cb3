import BoardMigration.Proofs.Migration.Board
import BoardMigration.Proofs.Store.Again

/-! Topics, posts and users as a map from numbers to rows that keeps what came first. The guest comes
before all other users; whatever else is inserted in between does not show. -/
namespace BoardMigration.Store

open Schema (Table)

/-- A row of all columns: the values given, and the defaults elsewhere. -/
def filled (shape : Table) (given : Row) : Row :=
  shape.columns.map fun column =>
    (column.name, ((given.find? (·.1 == column.name)).map (·.2)).getD (column.default?.getD .null))

/-- The row of the user that stands for all guests. -/
def guest : Row :=
  filled Table.users [("id", .int guestUser), ("group_id", .int Schema.guestGroup),
    ("username", .text "Guest"), ("password", .text "Guest"), ("email", .text "Guest")]

/-- Records that a table can hold: integers of 64 bits, and posts that know their topic. Nothing is asked
of categories and forums. -/
def Entire : Record → Prop
  | .post p => p.topic ≠ none ∧ Row.fits (Record.post p).row = true
  | .topic t => Row.fits (Record.topic t).row = true
  | .user u => Row.fits (Record.user u).row = true
  | _ => True

/-- The first record that came for a table under a number. -/
def firstOf? (shape : Table) (records : List Record) (n : Int) : Option Record :=
  records.find? fun record => record.table == shape.name && record.key == some n

/-- Whether a number was taken by the guest or by a record. -/
def Taken (shape : Table) (records : List Record) (n : Int) : Prop :=
  shape = Table.users ∧ n = guestUser ∨
    ∃ record ∈ records, record.table = shape.name ∧ record.key = some n

/-- What a table holds under a number: the guest, or else the first record that came. -/
def held? (shape : Table) (records : List Record) (n : Int) : Option Row :=
  if shape = Table.users ∧ n = guestUser then some guest
  else (firstOf? shape records n).map fun record => filled shape record.row

theorem held?_isSome_iff (shape : Table) (records : List Record) (n : Int) :
    (held? shape records n).isSome = true ↔ Taken shape records n := by
  unfold held? Taken
  by_cases seeded : shape = Table.users ∧ n = guestUser
  · simp [seeded]
  · simp [seeded, firstOf?, List.find?_isSome]

section

variable {shape : Table} {record : Record} {n : Int}

theorem mem_numbered : shape ∈ Sink.numbered ↔
    shape = Table.topics ∨ shape = Table.posts ∨ shape = Table.users := by
  simp [Sink.numbered]

theorem record_of_numbered (member : shape ∈ Sink.numbered) (here : record.table = shape.name) :
    (∃ t, shape = Table.topics ∧ record = .topic t) ∨ (∃ p, shape = Table.posts ∧ record = .post p) ∨
      ∃ u, shape = Table.users ∧ record = .user u := by
  rcases mem_numbered.mp member with rfl | rfl | rfl
  · cases record with
    | topic t => exact .inl ⟨t, rfl, rfl⟩
    | _ => exact absurd here (by simp [Record.table, Table.topics])
  · cases record with
    | post p => exact .inr (.inl ⟨p, rfl, rfl⟩)
    | _ => exact absurd here (by simp [Record.table, Table.posts])
  · cases record with
    | user u => exact .inr (.inr ⟨u, rfl, rfl⟩)
    | _ => exact absurd here (by simp [Record.table, Table.users])

/-- Records of the numbered tables bring their numbers. -/
theorem key_of_numbered (member : shape ∈ Sink.numbered) (here : record.table = shape.name) :
    ∃ n, record.key = some n ∧ record.row.find? (·.1 == "id") = some ("id", .int n) := by
  rcases record_of_numbered member here with ⟨t, -, rfl⟩ | ⟨p, -, rfl⟩ | ⟨u, -, rfl⟩
  · exact ⟨t.id, rfl, rfl⟩
  · exact ⟨p.id, rfl, rfl⟩
  · exact ⟨u.id, rfl, rfl⟩

theorem filled_eq_complete (member : shape ∈ Sink.numbered) (here : record.table = shape.name) :
    filled shape record.row = (StoredTable.blank shape).complete record.row := by
  have numbered := Sink.numbered_record member here
  apply List.map_congr_left
  intro column inside
  by_cases number : column.kind = .key
  · obtain ⟨n, found⟩ := numbered column inside number
    simp [found]
  · cases found : record.row.find? (·.1 == column.name) <;> simp [number]

theorem id_filled (member : shape ∈ Sink.numbered) {given : Row}
    (number : given.find? (·.1 == "id") = some ("id", .int n)) :
    (filled shape given).value "id" = .int n := by
  rcases mem_numbered.mp member with rfl | rfl | rfl
  · simp [filled, Table.topics, Schema.Column.free, Row.value, number]
  · simp [filled, Table.posts, Schema.Column.free, Row.value, number]
  · simp [filled, Table.users, Schema.Column.free, Row.value, number]

theorem id_filled_iff (member : shape ∈ Sink.numbered) (here : record.table = shape.name) :
    (filled shape record.row).value "id" = .int n ↔ record.key = some n := by
  obtain ⟨m, key, number⟩ := key_of_numbered member here
  simp [id_filled member number, key]

theorem Entire.fits (entire : Entire record) (member : shape ∈ Sink.numbered)
    (here : record.table = shape.name) : Row.fits record.row = true := by
  rcases record_of_numbered member here with ⟨t, -, rfl⟩ | ⟨p, -, rfl⟩ | ⟨u, -, rfl⟩
  · exact entire
  · exact entire.2
  · exact entire

/-- No column is null that must not be. -/
theorem Entire.whole (entire : Entire record) (member : shape ∈ Sink.numbered)
    (here : record.table = shape.name) :
    (StoredTable.blank shape).lacks (filled shape record.row) = false := by
  rcases record_of_numbered member here with ⟨t, rfl, rfl⟩ | ⟨p, rfl, rfl⟩ | ⟨u, rfl, rfl⟩
  · simp [StoredTable.lacks, StoredTable.blank, filled, Table.topics, Schema.Column.free,
      Schema.Column.needed, Record.row, Row.value, Value.ofBool]
  · obtain ⟨topic, known⟩ := Option.ne_none_iff_exists'.mp entire.1
    simp [StoredTable.lacks, StoredTable.blank, filled, Table.posts, Schema.Column.free,
      Schema.Column.needed, Record.row, Row.value, Value.ofBool, Value.ofInt?, known]
  · simp [StoredTable.lacks, StoredTable.blank, filled, Table.users, Schema.Column.free,
      Schema.Column.needed, Record.row, Row.value, Value.ofBool]

theorem stored?_eq (member : shape ∈ Sink.numbered) (entire : Entire record) :
    Sink.stored? shape record =
      if record.table = shape.name then some (filled shape record.row) else none := by
  by_cases here : record.table = shape.name
  · have whole := entire.whole member here
    rw [if_pos here, Sink.stored?, ← filled_eq_complete member here]
    simp [here, entire.fits member here, whole]
  · simp [Sink.stored?, here]

/-- The first row of a number is that of the first record. -/
theorem find?_stored (member : shape ∈ Sink.numbered) {records : List Record}
    (entire : ∀ record ∈ records, Entire record) (n : Int) :
    (stored shape records).find? (·.value "id" == .int n) =
      (firstOf? shape records n).map fun record => filled shape record.row := by
  induction records with
  | nil => rfl
  | cons record rest ih =>
    rw [List.forall_mem_cons] at entire
    have later := ih entire.2
    rw [stored, filterMap_cons_toList, List.find?_append, ← stored, later, stored?_eq member entire.1]
    by_cases here : record.table = shape.name
    · have number := id_filled_iff (n := n) member here
      by_cases same : record.key = some n
      · simp [firstOf?, here, same, number.mpr same]
      · simp [firstOf?, here, same, mt number.mp same]
    · simp [firstOf?, here]

end

variable {db : Database} {tablePrefix start : String} {shape : Table} {records : List Record}

theorem Board.insertAll {rows : Table → List Row} (board : Board db tablePrefix start rows)
    (records : List Record) :
    Board (target.insertAll (.connect db tablePrefix) records).database tablePrefix start
      (added rows records) where
  serves := board.serves.connect _
  tables := by
    intro shape member
    obtain ⟨t, found, rfl, same⟩ := board.tables shape member
    obtain ⟨-, last⟩ := serves_insertAll board.serves found member records
    exact ⟨_, last, rfl, by rw [added, ← same]⟩

theorem Sink.Serves.insertAll {s : Sink} (serves : s.Serves start) (records : List Record) :
    (target.insertAll s records).Serves start := by
  induction records generalizing s with
  | nil => exact serves
  | cons record rest ih => exact ih (serves.keeps (serves.keeps_insert record))

theorem firstRows_numbered (tablePrefix : String) (member : shape ∈ Sink.numbered) :
    firstRows tablePrefix shape = if shape = Table.users then [guest] else [] := by
  rcases mem_numbered.mp member with rfl | rfl | rfl
  · rfl
  · rfl
  · rfl

theorem keyOf_numbered (member : shape ∈ Sink.numbered) (row : Row) :
    StoredTable.keyOf shape row = [row.value "id"] := by
  rw [StoredTable.keyOf, (Sink.keyed_of_numbered member).2.1]
  rfl

/-- Under each number is the guest, or the first record that came. -/
theorem filter_added (member : shape ∈ Sink.numbered) (entire : ∀ record ∈ records, Entire record)
    (n : Int) :
    (added (firstRows tablePrefix) records shape).filter (·.value "id" == .int n) =
      (held? shape records n).toList := by
  have sameKey : (fun row : Row => row.value "id" == .int n) =
      fun row => decide (StoredTable.keyOf shape row = [.int n]) := by
    funext row
    rw [keyOf_numbered member, Bool.eq_iff_iff]
    simp
  let rows := added (firstRows tablePrefix) records shape
  have distinct : (rows.map (StoredTable.keyOf shape)).Nodup :=
    nodup_keepFirst _ (firstRows_distinct tablePrefix member) _
  have single : rows.filter (·.value "id" == .int n) = (rows.find? (·.value "id" == .int n)).toList := by
    rw [sameKey]
    exact filter_eq_find? distinct _
  have first : rows.find? (·.value "id" == .int n) =
      (firstRows tablePrefix shape ++ stored shape records).find? (·.value "id" == .int n) := by
    rw [sameKey]
    exact find?_keepFirst _ _ _ _
  rw [single, first, List.find?_append, find?_stored member entire, firstRows_numbered tablePrefix member,
    held?]
  by_cases users : shape = Table.users
  · by_cases first : n = guestUser
    · have here : guest.value "id" = .int n := by rw [first]; rfl
      simp [users, first, here]
    · have other : guest.value "id" ≠ .int n := by
        intro same
        exact first (Value.int.inj same).symm
      simp [users, first, other]
  · simp [users]

/-- No row is without a number. -/
theorem numbered_added (member : shape ∈ Sink.numbered) (entire : ∀ record ∈ records, Entire record) :
    ∀ row ∈ added (firstRows tablePrefix) records shape, ∃ n, row.value "id" = .int n := by
  intro row inside
  rcases mem_keepFirst _ inside with first | later
  · rw [firstRows_numbered tablePrefix member] at first
    split at first
    · rw [List.mem_singleton.mp first]
      exact ⟨guestUser, rfl⟩
    · cases first
  · obtain ⟨record, came, kept⟩ := List.mem_filterMap.mp later
    rw [stored?_eq member (entire record came)] at kept
    split at kept
    · next here =>
      obtain ⟨n, -, number⟩ := key_of_numbered member here
      rw [← Option.some.inj kept]
      exact ⟨n, id_filled member number⟩
    · cases kept

theorem mem_numbers_added (member : shape ∈ Sink.numbered)
    (entire : ∀ record ∈ records, Entire record) {t : StoredTable}
    (same : t.rows = added (firstRows tablePrefix) records shape) (n : Int) :
    n ∈ t.numbers ↔ Taken shape records n := by
  have found : t.rows.filter (·.value "id" == .int n) = (held? shape records n).toList := by
    rw [same]
    exact filter_added member entire n
  rw [← held?_isSome_iff, StoredTable.mem_numbers]
  constructor
  · rintro ⟨row, inside, number⟩
    have kept : row ∈ (held? shape records n).toList := by
      rw [← found]
      exact List.mem_filter.mpr ⟨inside, beq_iff_eq.mpr number⟩
    exact Option.isSome_iff_exists.mpr ⟨row, Option.mem_toList.mp kept⟩
  · intro held
    obtain ⟨row, kept⟩ := Option.isSome_iff_exists.mp held
    have inside : row ∈ t.rows.filter (·.value "id" == .int n) := by
      rw [found, kept]
      exact List.mem_singleton.mpr rfl
    obtain ⟨inside, number⟩ := List.mem_filter.mp inside
    exact ⟨row, inside, beq_iff_eq.mp number⟩

/-- A row is written unless its number is taken. -/
theorem Sink.Serves.insert_numbered {s : Sink} (serves : s.Serves start) {t : StoredTable}
    (member : t.shape ∈ Sink.numbered)
    (there : s.database.table? (start ++ t.shape.name) = some t) {record : Record}
    (here : record.table = t.shape.name) (entire : Entire record) {n : Int} (key : record.key = some n) :
    (s.insert record).1 = .ok (decide (n ∉ t.numbers)) := by
  obtain ⟨listed, only, -⟩ := Sink.keyed_of_numbered member
  have known := Database.name_mem_names listed
  have complete : t.complete record.row = filled t.shape record.row := by
    rw [filled_eq_complete member here, t.complete_numbered (Sink.numbered_record member here)]
  have number : (t.complete record.row).value "id" = .int n := by
    rw [complete]
    exact (id_filled_iff member here).mpr key
  have whole : t.lacks (t.complete record.row) = false := by
    rw [complete]
    exact entire.whole member here
  rw [serves.insert_answer, (Sink.number_of_numbered member here).1, here, serves.write_eq known, there]
  simp only [entire.fits member here, if_true, StoredTable.insertIfAbsent_numbered only number whole]
  by_cases taken : n ∈ t.numbers
  · simp [taken, Except.mapError]
  · simp [taken, Except.mapError]

/-- Records inserted one after another into a table that keeps the first row of each number. -/
structure FirstWins (s : Sink) (shape : Table) (records : List Record) : Prop where
  /-- A row is written if and only if its number was not taken before. -/
  answers : ∀ before record after, records = before ++ record :: after → record.table = shape.name →
    ∃ n, record.key = some n ∧ ∃ written, ((target.insertAll s before).insert record).1 = .ok written ∧
      (written = true ↔ ¬Taken shape before n)
  /-- There is one row for each number that was taken, that of the first. -/
  rows : ∀ n, ((target.insertAll s records).database.rowsOf s.tablePrefix shape.name).filter
    (·.value "id" == .int n) = (held? shape records n).toList
  numbered : ∀ row ∈ (target.insertAll s records).database.rowsOf s.tablePrefix shape.name,
    ∃ n, row.value "id" = .int n

/-- The tables of topics, posts and users of a new board keep the first row of each number. -/
theorem Creatable.first_wins (creatable : Creatable db tablePrefix)
    (entire : ∀ record ∈ records, Entire record) (member : shape ∈ Sink.numbered) :
    FirstWins (Sink.connect db tablePrefix).provision.2 shape records := by
  rw [creatable.provision]
  obtain ⟨start, board⟩ := creatable.board
  generalize created db tablePrefix = made at board
  have last := (board.insertAll records).rowsOf member
  refine ⟨?_, ?_, ?_⟩
  · intro before record after split here
    have inside : record ∈ records := by simp [split]
    have earlier : ∀ record ∈ before, Entire record := by
      intro other came
      exact entire other (by simp [split, came])
    obtain ⟨n, key, -⟩ := key_of_numbered member here
    obtain ⟨t, found, rfl, same⟩ := (board.insertAll before).tables shape member
    have between := board.serves.insertAll before
    refine ⟨n, key, _, between.insert_numbered member found here (entire record inside) key, ?_⟩
    rw [decide_eq_true_iff, mem_numbers_added member earlier same]
  · intro n
    change ((target.insertAll (.connect made tablePrefix) records).database.rowsOf tablePrefix
      shape.name).filter _ = _
    rw [last]
    exact filter_added member entire n
  · change ∀ row ∈ (target.insertAll (.connect made tablePrefix) records).database.rowsOf tablePrefix
      shape.name, _
    rw [last]
    exact numbered_added member entire

/-- A user 1 comes after the guest, topic 7 twice, and a post of the number of a topic in between. -/
theorem Creatable.first_wins_mixed :
    let records : List Record := [
      .user { id := 1, username := "alice" },
      .topic { id := 7, subject := "First", lastPost := 7, forum := 2 },
      .forum { id := some 2, name := "News", categoryName := "General" },
      .post { id := 7, poster := "alice", topic := some 7 },
      .topic { id := 7, subject := "Second", lastPost := 8, forum := 3 }]
    Creatable {} "old_" ∧ (∀ record ∈ records, Entire record) ∧ Table.topics ∈ Sink.numbered ∧
    FirstWins (Sink.connect {} "old_").provision.2 Table.topics records := by
  intro records
  have creatable : Creatable {} "old_" := creatable_plain (by decide +kernel) (by decide +kernel)
  have entire : ∀ record ∈ records, Entire record := by
    simp only [records, List.forall_mem_cons]
    exact ⟨rfl, rfl, trivial, ⟨by simp, rfl⟩, rfl, by simp⟩
  have member : Table.topics ∈ Sink.numbered := by decide
  exact ⟨creatable, entire, member, creatable.first_wins entire member⟩

end BoardMigration.Store
