import BoardMigration.Proofs.Store.Beside
import BoardMigration.Proofs.Store.Catalogue

/-! Inserts that are refused. A gateway that refuses a record is left as it was, except that a forum may leave its
category behind; what is asked later is answered as if the record had never come. -/
namespace BoardMigration.Store

open Schema (Table)

namespace Sink

variable {s : Sink} {start : String}

theorem write_error {name : String} {row : Row} {obstacle : Obstacle}
    (failed : (s.write name row).1 = .error obstacle) : (s.write name row).2 = s := by
  rw [write] at failed ⊢
  split at failed
  · rfl
  · split at failed
    · rfl
    · split at failed
      · next wide => rw [if_pos wide]
      · cases failed

theorem writeRedirect_error {row : Row} {obstacle : Obstacle}
    (failed : (s.writeRedirect row).1 = .error obstacle) : (s.writeRedirect row).2 = s := by
  rw [writeRedirect] at failed ⊢
  dsimp only at failed ⊢
  split at failed
  · rfl
  · rfl
  · cases failed
  · split at failed
    · next refused =>
      have answer := congrArg Prod.fst refused
      have left := congrArg Prod.snd refused
      exact left.symm.trans (write_error answer)
    · cases failed

theorem place_error {f : Forum} {category : Int} {obstacle : Obstacle}
    (failed : (s.place f category).1 = .error obstacle) : (s.place f category).2 = s := by
  rw [place] at failed ⊢
  split at failed
  · next redirect =>
    rw [if_pos redirect]
    exact writeRedirect_error failed
  · next plain =>
    rw [if_neg plain]
    exact write_error failed

theorem resolveCategory_error {key : CategoryKey} {obstacle : Obstacle}
    (failed : (s.resolveCategory key).1 = .error obstacle) : (s.resolveCategory key).2 = s := by
  rw [resolveCategory] at failed ⊢
  split at failed
  · cases failed
  · split at failed
    · rfl
    · cases failed
    · split at failed
      · rfl
      · dsimp only at failed ⊢
        split at failed
        · next full => rw [if_pos full]
        · cases failed

/-- Of a record that is refused nothing stays but what came of a forum's category. -/
theorem writeRecord_error {record : Record} {obstacle : Obstacle}
    (failed : (s.writeRecord record).1 = .error obstacle) : (s.writeRecord record).2 = s ∨
      ∃ f, record = .forum f ∧ (s.writeRecord record).2 = (s.resolveCategory (categoryOf f)).2 := by
  cases record with
  | category c =>
    rw [writeRecord_category] at failed ⊢
    refine .inl ?_
    dsimp only at failed ⊢
    cases answer : (s.resolveCategory (c.name, c.position)).1 with
    | error obstacle => exact resolveCategory_error answer
    | ok found =>
      rw [answer] at failed
      cases failed
  | forum f =>
    refine .inr ⟨f, rfl, ?_⟩
    change (s.writeForum f).1 = _ at failed
    change (s.writeForum f).2 = _
    cases answer : (s.resolveCategory (categoryOf f)).1 with
    | error obstacle => rw [writeForum_error answer]
    | ok found =>
      rw [writeForum_ok answer] at failed ⊢
      exact place_error failed
  | topic t => exact .inl (write_error failed)
  | post p => exact .inl (write_error failed)
  | user u => exact .inl (write_error failed)

/-- What a gateway becomes that refuses a record, but for its transaction: for a forum its category may be
remembered, or created. -/
inductive Refuses (start : String) (s : Sink) (record : Record) : Sink → Prop
  | same : Refuses start s record s
  | remembered (key : CategoryKey) (n : Int) : Refuses start s record (s.remember key n)
  | created {f : Forum} {t : StoredTable} (forum : record = .forum f) (opened : s.isOpen = true)
      (there : s.database.table? (start ++ "categories") = some t) (missing : t.find? (categoryRow (categoryOf f)) = none)
      (free : t.isFull = false) :
      Refuses start s record (Sink.remember { s with
        database := s.database.replace (t.insertIfAbsent (categoryRow (categoryOf f))).1 } (categoryOf f) t.nextNumber)

theorem Refuses.isOpen {record : Record} {after : Sink} (refuses : Refuses start s record after) :
    after.isOpen = s.isOpen := by
  cases refuses <;> rfl

theorem Orderly.refuses (orderly : s.Orderly start) {record : Record} {error : StoreError}
    (failed : (s.insert record).1 = .error error) : ∃ left pending,
      Refuses start s record left ∧ (s.insert record).2 = left.noting pending := by
  cases opened : s.isOpen with
  | false =>
    rw [insert, if_pos (by simp [opened])]
    exact ⟨s, s.pending, .same, rfl⟩
  | true =>
    have regular := orderly.regular opened
    have refused : ∃ obstacle, (s.writeRecord record).1 = .error obstacle := by
      rw [regular.insert_answer] at failed
      cases answer : (s.writeRecord record).1 with
      | error obstacle => exact ⟨obstacle, rfl⟩
      | ok written =>
        rw [answer] at failed
        cases failed
    obtain ⟨obstacle, refused⟩ := refused
    refine ⟨_, _, ?_, regular.insert_eq record⟩
    rcases writeRecord_error refused with same | ⟨f, rfl, left⟩
    · rw [same]
      exact .same
    · rw [left]
      have resolved := regular.resolves (categoryOf f)
      generalize s.resolveCategory (categoryOf f) = outcome at resolved
      cases resolved with
      | known => exact .same
      | refused => exact .same
      | found => exact .remembered _ _
      | full => exact .same
      | created _ there missing _ free => exact .created rfl opened there missing free

/-- What is remembered of a category stands in its row. -/
theorem Orderly.recalled (orderly : s.Orderly start) {key : CategoryKey} {n : Int} (cached : s.known? key = some n) :
    ∃ row ∈ s.database.rowsOf s.tablePrefix "categories", Numbers row key n := by
  have stored := orderly.recalls key n cached
  have known : "categories" ∈ Table.names := by decide
  rw [Serves.find orderly.toServes known] at stored
  cases there : s.database.table? (start ++ "categories") with
  | none => simp [there] at stored
  | some t =>
    simp only [there] at stored
    split at stored
    · have found := List.min?_mem (Except.ok.inj stored)
      obtain ⟨row, member, number⟩ := List.mem_filterMap.mp found
      obtain ⟨inside, meets⟩ := List.mem_filter.mp member
      rw [orderly.rowsOf known there]
      have cells := Row.meets_iff.mp meets
      exact ⟨row, inside, StoredTable.number?_eq_some.mp number, cells ("cat_name", .text key.1) (by simp [categoryRow]),
        cells ("disp_position", .int key.2) (by simp [categoryRow])⟩
    · cases stored

theorem Mute.provision (mute : s.Mute) : s.provision.2 = s := by
  obtain ⟨parameter, stopped⟩ := mute.runSteps_eq s.database
  rw [Sink.provision, stopped]
  split
  · rfl
  · dsimp only
    rw [ite_self]
    exact mute.noting

theorem Mute.after (mute : s.Mute) (call : Call) : (call.after s).Mute := by
  cases call with
  | count name =>
    change (s.count name).2.Mute
    rw [s.count_snd, mute.noting, ite_self]
    exact mute
  | reconnect => exact ⟨mute.refuses, rfl, rfl⟩
  | operation op =>
    cases op with
    | provision =>
      change s.provision.2.Mute
      rwa [mute.provision]
    | insert record =>
      obtain ⟨error, refused⟩ := mute.insert record
      change (s.insert record).2.Mute
      rwa [refused]
    | categoryId name position =>
      obtain ⟨fault, refused⟩ := mute.resolveCategory (name, position)
      change (s.categoryId name position).2.Mute
      rw [Sink.categoryId, refused]
      split
      · exact mute
      · change (s.noting false).Mute
        rwa [mute.noting]
    | close => exact ⟨mute.refuses, mute.fresh, mute.settled⟩

theorem Mute.afterAll (mute : s.Mute) (calls : List Call) : (Call.afterAll s calls).Mute := by
  induction calls generalizing s with
  | nil => exact mute
  | cons call rest ih => exact ih (mute.after call)

/-- A gateway whose category was created stands beside the one before. -/
theorem Orderly.beside (orderly : s.Orderly start) {t : StoredTable} {key : CategoryKey}
    (there : s.database.table? (start ++ "categories") = some t) (missing : t.find? (categoryRow key) = none)
    (free : t.isFull = false)
    (after : (Sink.remember { s with
      database := s.database.replace (t.insertIfAbsent (categoryRow key)).1 } key t.nextNumber).Orderly start) :
    Beside t key start (Sink.remember { s with
      database := s.database.replace (t.insertIfAbsent (categoryRow key)).1 } key t.nextNumber) s where
  isOpen := rfl
  owner := rfl
  left := after
  right := orderly
  categories := ⟨_, t, Database.table?_added there _, there,
    .added (orderly.tables _ categories_mem.1 t there).1 free missing⟩
  forums := by
    change Option.Rel Twins ((s.database.replace _).table? _) _
    rw [Database.table?_inserted there, if_neg (Beside.forums_apart start)]
    cases s.database.table? (start ++ "forums") with
    | none => exact .none
    | some u => exact .some (.refl u)
  others := by
    intro name apart _
    change (s.database.replace _).table? _ = _
    rw [Database.table?_inserted there, if_neg apart]

end Sink

/-- What a gateway is left with once it has refused a record: the same tables, and all that is asked later is
answered as if the record had not come; or one category more, that of a forum. -/
inductive Leaves (s : Sink) (record : Record) (after : Sink) : Prop
  | nothing (database : after.database = s.database)
      (answers : ∀ (calls : List Call) (call : Call),
        call.answer (Call.afterAll after calls) = call.answer (Call.afterAll s calls))
  | category {f : Forum} {t : StoredTable} {n : Int} (forum : record = .forum f)
      (table : s.table .write "categories" = .ok t)
      (missing : t.find? (Sink.categoryRow (Sink.categoryOf f)) = none) (free : n ∉ t.numbers)
      (database : after.database = s.database.replace { t with
        rows := t.rows ++ [StoredTable.categoryEntry n (Sink.categoryOf f)] })
      (answers : ∀ calls : List Call, (∀ early, early <+: calls → (Call.afterAll s early).Roomy) → ∀ call : Call,
        Answer.Corresponds s.tablePrefix t (Sink.categoryOf f) call (call.answer (Call.afterAll after calls))
          (call.answer (Call.afterAll s calls)))

variable {db : Database}

theorem Sink.Refuses.leaves {s after : Sink} {start : String} {record : Record} (refuses : Refuses start s record after)
    (pending : Bool) (orderly : s.Orderly start) (later : (after.noting pending).Orderly start) :
    Leaves s record (after.noting pending) := by
  cases refuses with
  | same =>
    have alike : Alike (s.noting pending) s := (Alike.refl s).noting pending s.pending
    exact .nothing rfl fun calls call => alike.callAll later orderly calls call
  | remembered key n =>
    have alike : Alike ((s.remember key n).noting pending) s :=
      ((Alike.refl s).remember key n).symm.noting pending s.pending
    exact .nothing rfl fun calls call => alike.callAll later orderly calls call
  | @created f t forum opened there missing free =>
    have regular := orderly.regular opened
    have shape := (regular.tables _ categories_mem.1 t there).1
    have beside := (orderly.beside there missing free (later.noting s.pending)).noting pending s.pending
    refine .category forum ?_ missing (n := t.nextNumber) ?_ ?_ ?_
    · rw [regular.table (by decide), there]
    · simpa [StoredTable.isFull] using free
    · rw [StoredTable.insertIfAbsent_category shape free]
      rfl
    · exact fun calls room call => beside.callAll (Database.table?_name there) room call

/-- A record that is refused leaves the store intact, whatever gateways did before and whatever is asked later. -/
theorem Worked.insert_refused (worked : Worked db) {tablePrefix : String} (enclosed : Enclosed tablePrefix)
    (calls : List Call) {record : Record} {error : StoreError} :
    let s := Call.afterAll (.connect db tablePrefix) calls
    let after := (s.insert record).2
    (s.insert record).1 = .error error →
      Leaves s record after ∧ after.isOpen = s.isOpen ∧
        ∀ key n, after.known? key = some n →
          ∃ row ∈ after.database.rowsOf tablePrefix "categories", Numbers row key n := by
  intro s after failed
  have owner : after.tablePrefix = tablePrefix := (Call.tablePrefix_after s (.operation (.insert record))).trans
    (Call.tablePrefix_afterAll (.connect db tablePrefix) calls)
  rcases Sink.serves_or_refuses db enclosed with ⟨start, serves⟩ | connected
  · have orderly : s.Orderly start := (worked.regular serves).orderly.afterAll calls
    have later : after.Orderly start := orderly.after (.operation (.insert record))
    obtain ⟨left, pending, refuses, same⟩ := orderly.refuses failed
    have outcome : Leaves s record after := by
      change (s.insert record).2.Orderly start at later
      change Leaves s record (s.insert record).2
      rw [same] at later ⊢
      exact refuses.leaves pending orderly later
    have still : after.isOpen = s.isOpen := (congrArg Sink.isOpen same).trans refuses.isOpen
    refine ⟨outcome, still, fun key n cached => ?_⟩
    rw [← owner]
    exact later.recalled cached
  · have mute : s.Mute := connected.afterAll calls
    obtain ⟨error, refused⟩ := mute.insert record
    have same : after = s := congrArg Prod.snd refused
    rw [same]
    refine ⟨.nothing rfl fun calls call => rfl, rfl, fun key n cached => ?_⟩
    simp [Sink.known?, mute.fresh] at cached

/-- A forum whose number is too large leaves its category behind. -/
theorem Worked.insert_refused_far :
    let calls : List Call := [.operation .provision, .operation (.insert (.category { name := "General" }))]
    let record : Record := .forum { id := some 9223372036854775808, name := "Far", categoryName := "Else" }
    let s := Call.afterAll (Sink.connect {} "") calls
    let after := (s.insert record).2
    Enclosed "" ∧ (s.insert record).1 = .error .overflow ∧ Leaves s record after ∧ after.isOpen = s.isOpen ∧
      ∀ key n, after.known? key = some n → ∃ row ∈ after.database.rowsOf "" "categories", Numbers row key n := by
  intro calls record s after
  have enclosed : Enclosed "" := by decide
  have failed : (s.insert record).1 = .error .overflow := by decide +kernel
  exact ⟨enclosed, failed, Worked.new.insert_refused enclosed calls failed⟩

/-- Behind a prefix that closes its quote the tables cannot all be created. An insert that was refused for a number
too large has left its transaction open, so that a later attempt is taken back with what it dropped. -/
theorem insert_refused_pending :
    let post (id : Int) : Record := .post { id, poster := "Guest", topic := some 7 }
    let s := Call.afterAll (Sink.connect {} "main\".\"p_") [.operation .provision, .operation (.insert (post 1))]
    let record := post 9223372036854775808
    let after := (s.insert record).2
    (s.insert record).1 = .error .overflow ∧
      (((Call.operation .provision).after s).count "posts").1 = .ok 0 ∧
      (((Call.operation .provision).after after).count "posts").1 = .ok 1 ∧ ¬Leaves s record after := by
  intro post s record after
  obtain ⟨failed, anew, back⟩ : (s.insert record).1 = .error .overflow ∧
      (((Call.operation .provision).after s).count "posts").1 = .ok 0 ∧
      (((Call.operation .provision).after after).count "posts").1 = .ok 1 := by decide +kernel
  refine ⟨failed, anew, back, fun leaves => ?_⟩
  cases leaves with
  | nothing _ answers =>
    have same := answers [.operation .provision] (.count "posts")
    change Answer.counted (((Call.operation .provision).after after).count "posts").1 =
      .counted (((Call.operation .provision).after s).count "posts").1 at same
    rw [anew, back] at same
    cases same
  | @category f _ _ forum => exact absurd forum (by simp [record, post])

end BoardMigration.Store
