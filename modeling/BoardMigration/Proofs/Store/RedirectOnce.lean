import BoardMigration.Proofs.Store.Again
import BoardMigration.Proofs.Store.Catalogue
import BoardMigration.Proofs.Store.Orderly
import BoardMigration.Proofs.Store.Receives

/-! Redirect forums are stored once. Whatever came to a board before, a redirect is added under a number above all
others unless a forum of its name and target is there, and it takes the place of none. -/
namespace BoardMigration.Store

open Schema (Table)

/-- Rows of forums that have numbers, and no redirect twice. -/
structure Signposts (rows : List Row) : Prop where
  numbered : ∀ row ∈ rows, ∃ n, row.value "id" = .int n
  once : ∀ name target, (rows.filter (Row.meets · (redirectRow name target))).length ≤ 1

namespace Signposts

theorem nil : Signposts [] := ⟨fun _ member => absurd member List.not_mem_nil, fun _ _ => Nat.zero_le 1⟩

variable {t : StoredTable} {f : Forum} {category n : Int} {row : Row}

theorem find?_eq_none_iff (signposts : Signposts t.rows) (criteria : Row) :
    t.find? criteria = none ↔ ∀ row ∈ t.rows, row.meets criteria = false := by
  rw [StoredTable.find?_eq_none]
  refine forall₂_congr fun row member => ?_
  obtain ⟨n, held⟩ := signposts.numbered row member
  simp [StoredTable.number?_eq_some.mpr held]

/-- A forum comes without harm if it is no redirect that is there. -/
theorem append (signposts : Signposts t.rows) (held : t.IsForumRow f n row)
    (fresh : ∀ target, f.redirect = some target → t.find? (redirectRow f.name target) = none) :
    Signposts (t.rows ++ [row]) := by
  constructor
  · rw [List.forall_mem_append, List.forall_mem_singleton]
    exact ⟨signposts.numbered, n, held.id⟩
  · intro name target
    rw [List.filter_append, List.filter_singleton]
    by_cases meets : row.meets (redirectRow name target) = true
    · obtain ⟨rfl, redirect⟩ := (held.meets_iff name target).mp meets
      have none := (signposts.find?_eq_none_iff _).mp (fresh target redirect)
      rw [List.filter_eq_nil_iff.mpr fun other member => by simp [none other member]]
      simp [meets]
    · simpa [meets] using signposts.once name target

theorem insertIfAbsent (signposts : Signposts t.rows) (shape : t.shape = Table.forums)
    (fresh : ∀ target, f.redirect = some target → t.find? (redirectRow f.name target) = none) :
    Signposts (t.insertIfAbsent (forumRow f category)).1.rows := by
  rcases t.insertIfAbsent_cases (forumRow f category) with ⟨-, still⟩ | ⟨-, added⟩
  · rwa [still]
  · rw [added]
    exact signposts.append (StoredTable.complete_forumRow shape f category) fresh

end Signposts

namespace Sink

variable {s : Sink} {start : String} {t : StoredTable} {f : Forum}

/-- Whether the forums of a gateway have numbers, and no redirect is twice among them. -/
def Signposted (s : Sink) (start : String) : Prop :=
  ∃ t, s.database.table? (start ++ "forums") = some t ∧ Signposts t.rows

theorem Signposted.keeps {after : Sink} {changed : List String} (signposted : s.Signposted start)
    (keeps : Keeps start changed s after) (apart : "forums" ∉ changed) : after.Signposted start := by
  obtain ⟨t, there, signposts⟩ := signposted
  exact ⟨t, (keeps.others "forums" (by decide) apart).trans there, signposts⟩

theorem Signposted.place (signposted : s.Signposted start) (regular : s.Regular start) (f : Forum)
    (category : Int) : (s.place f category).2.Signposted start := by
  obtain ⟨t, there, signposts⟩ := signposted
  have shape := (regular.tables _ forums_mem.1 t there).1
  cases redirect : f.redirect with
  | none =>
    rw [place_plain redirect, forums_mem.2, regular.write_eq (by decide), there]
    dsimp only
    split
    · refine ⟨_, Database.table?_added there _, signposts.insertIfAbsent shape fun target aimed => ?_⟩
      rw [redirect] at aimed
      cases aimed
    · exact ⟨t, there, signposts⟩
  | some target =>
    rw [place_redirect redirect, regular.writeRedirect_eq redirect, there]
    dsimp only
    split
    · exact ⟨t, there, signposts⟩
    · next missing =>
      split
      · refine ⟨_, Database.table?_added there _, signposts.insertIfAbsent shape fun other aimed => ?_⟩
        obtain rfl := Option.some.inj (redirect.symm.trans aimed)
        exact not_not.mp missing
      · exact ⟨t, there, signposts⟩

theorem Signposted.insert (signposted : s.Signposted start) (regular : s.Regular start) (record : Record) :
    (s.insert record).2.Signposted start := by
  cases record with
  | forum f =>
    rw [regular.insert_eq]
    change (s.writeForum f).2.Signposted start
    have first := signposted.keeps (regular.keeps_resolveCategory (categoryOf f)) (by decide)
    cases answer : (s.resolveCategory (categoryOf f)).1 with
    | error obstacle => rwa [writeForum_error answer]
    | ok found =>
      rw [writeForum_ok answer]
      exact first.place (regular.resolveCategory (categoryOf f)).regular f found.1
  | category c => exact signposted.keeps (regular.keeps_insert (.category c)) (by simp [touched, Record.table])
  | topic t => exact signposted.keeps (regular.keeps_insert (.topic t)) (by simp [touched, Record.table])
  | post p => exact signposted.keeps (regular.keeps_insert (.post p)) (by simp [touched, Record.table])
  | user u => exact signposted.keeps (regular.keeps_insert (.user u)) (by simp [touched, Record.table])

theorem Signposted.provision (signposted : s.Signposted start) (serves : s.Serves start) :
    s.provision.2.Signposted start := by
  have anew := serves.table?_provision forums_mem.1
  have bare : Signposts (Database.seeded s.fullName Table.forums).rows := .nil
  rw [serves.provision_eq]
  generalize s.database.provision s.fullName = made at anew ⊢
  split
  · exact signposted
  · exact ⟨_, anew, bare⟩

theorem Signposted.after (signposted : s.Signposted start) (regular : s.Regular start) (call : Call) :
    (call.after s).Signposted start := by
  cases call with
  | count name =>
    rw [Call.after, s.count_snd]
    split
    · exact signposted
    · exact signposted
  | reconnect => exact signposted
  | operation op =>
    cases op with
    | provision => exact signposted.provision regular.toServes
    | insert record => exact signposted.insert regular record
    | categoryId name position =>
      change (s.categoryId name position).2.Signposted start
      rw [regular.categoryId_eq]
      exact signposted.keeps ((regular.keeps_resolveCategory (name, position)).noting _) (by decide)
    | close => exact signposted

theorem Signposted.afterAll (signposted : s.Signposted start) (regular : s.Regular start) {calls : List Call}
    (others : .operation .close ∉ calls) : (Call.afterAll s calls).Signposted start := by
  induction calls generalizing s with
  | nil => exact signposted
  | cons call rest ih =>
    rw [List.mem_cons, not_or] at others
    exact ih (signposted.after regular call) (regular.after (Ne.symm others.1)) others.2

end Sink

namespace Sink

variable {s : Sink} {start : String}

/-- Writing a redirect adds it to the forums unless it is among them. -/
theorem Regular.writeRedirect_once (regular : s.Regular start) {t : StoredTable}
    (there : s.database.table? (start ++ "forums") = some t) (signposts : Signposts t.rows)
    (below : ∀ n ∈ t.numbers, n < maxInt) {f : Forum} {target : String} (redirect : f.redirect = some target)
    (own : modest f = true) {category : Int} (number : Value.fits (.int category) = true) :
    ((∃ row ∈ t.rows, row.meets (redirectRow f.name target) = true) ∧
      s.writeRedirect (forumRow f category) = (.ok false, s)) ∨
    ((∀ row ∈ t.rows, row.meets (redirectRow f.name target) = false) ∧
      (s.writeRedirect (forumRow f category)).1 = .ok true ∧
      ∃ more, (s.writeRedirect (forumRow f category)).2.database.table? (start ++ "forums") = some more ∧
        more.rows = t.rows ++ [t.complete (forumRow (renumbered f t.above) category)]) := by
  have none := signposts.find?_eq_none_iff (redirectRow f.name target)
  obtain ⟨shape, fits⟩ := regular.tables _ forums_mem.1 t there
  rw [regular.writeRedirect_eq redirect, there]
  dsimp only
  by_cases missing : t.find? (redirectRow f.name target) = .none
  · have untopped : ¬t.Topped := fun ⟨n, taken, top⟩ => absurd (below n taken) (Int.not_lt.mpr top)
    have above := (StoredTable.above_fits_iff fits).mpr untopped
    have small : Row.fits (forumRow (renumbered f t.above) category) = true := by
      rw [fits_renumbered, above, own, number]
      rfl
    have row : t.IsForumRow (renumbered f t.above) t.above _ := StoredTable.complete_forumRow shape _ category
    have added := StoredTable.insertIfAbsent_numbered (by rw [shape]; rfl) row.id row.whole
    rw [if_neg t.above_free] at added
    rw [if_neg (not_not_intro missing), if_pos small]
    refine .inr ⟨none.mp missing, rfl, _, Database.table?_added there _, ?_⟩
    rw [added]
  · rw [if_pos missing]
    refine .inl ⟨?_, rfl⟩
    rw [none] at missing
    simpa using missing

end Sink

/-- What comes of a redirect forum that is inserted: whether it is written, and the forums afterwards. It is added
under a number above all others, with the number of its category, unless one of its name and target is there. -/
inductive Joins (f : Forum) (target : String) (categories forums : List Row) : Bool → List Row → Prop
  | known {row : Row} (inside : row ∈ forums) (meets : row.meets (redirectRow f.name target) = true) :
      Joins f target categories forums false forums
  | added {row : Row} {n : Int} (absent : ∀ row ∈ forums, row.meets (redirectRow f.name target) = false)
      (number : row.value "id" = .int n) (above : ∀ other ∈ forums, ∃ m, other.value "id" = .int m ∧ m < n)
      (first : forums = [] → n = 1) (attached : Attached categories row f) :
      Joins f target categories forums true (forums ++ [row])

theorem Joins.written_iff {f : Forum} {target : String} {categories forums after : List Row} {written : Bool}
    (joins : Joins f target categories forums written after) :
    written = true ↔ ∀ row ∈ forums, row.meets (redirectRow f.name target) = false := by
  cases joins with
  | known inside meets =>
    exact iff_of_false Bool.false_ne_true fun none => Bool.false_ne_true ((none _ inside).symm.trans meets)
  | added absent => exact iff_of_true rfl absent

variable {db : Database} {tablePrefix start : String} {s : Sink} {held : Catalogue} {founders : List Forum} {f : Forum}
  {target : String}

namespace Catalogued

/-- A redirect whose category is listed. -/
theorem place_joins (listed : Catalogued tablePrefix start s held founders) (regular : s.Regular start)
    (signposted : s.Signposted start)
    (below : ∀ n ∈ (s.database.rowsOf tablePrefix "forums").filterMap StoredTable.number?, n < maxInt)
    (redirect : f.redirect = some target) (own : Sink.modest f = true) {n : Int}
    (member : (Sink.categoryOf f, n) ∈ held) (number : Value.fits (.int n) = true) :
    ∃ written, (s.place f n).1 = .ok written ∧
      Joins f target ((s.place f n).2.database.rowsOf tablePrefix "categories")
        (s.database.rowsOf tablePrefix "forums") written ((s.place f n).2.database.rowsOf tablePrefix "forums") := by
  obtain ⟨t, there, signposts⟩ := signposted
  have shape := (regular.tables _ Sink.forums_mem.1 t there).1
  have last := listed.place regular.isOpen member
  have forums := listed.rowsOf (by decide) there
  rw [forums] at below ⊢
  have once := regular.writeRedirect_once there signposts below redirect own number
  rw [← Sink.place_redirect redirect] at once
  rcases once with ⟨⟨row, inside, meets⟩, outcome⟩ | ⟨absent, written, more, here, rows⟩
  · rw [outcome, forums]
    exact ⟨false, rfl, .known inside meets⟩
  · obtain ⟨c, categories, -, listing⟩ := last.categories
    have entered : Entered held (t.complete (forumRow (Sink.renumbered f t.above) n)) (Sink.renumbered f t.above) :=
      .complete shape member
    have held : t.IsForumRow (Sink.renumbered f t.above) t.above _ := StoredTable.complete_forumRow shape _ n
    rw [last.rowsOf (by decide) here, last.rowsOf (by decide) categories, rows, listing]
    refine ⟨true, written, .added absent held.id ?_ StoredTable.above_of_nil entered.of_renumbered.attached⟩
    intro other inside
    obtain ⟨m, number⟩ := signposts.numbered other inside
    exact ⟨m, number, StoredTable.lt_above (StoredTable.mem_numbers.mpr ⟨other, inside, number⟩)⟩

theorem insert_joins (listed : Catalogued tablePrefix start s held founders) (regular : s.Regular start)
    (signposted : s.Signposted start)
    (below : ∀ n ∈ (s.database.rowsOf tablePrefix "forums").filterMap StoredTable.number?, n < maxInt)
    (few : ((s.database.rowsOf tablePrefix "categories").length : Int) < maxInt)
    (redirect : f.redirect = some target) (own : Sink.modest f = true)
    (position : Value.fits (.int f.categoryPosition) = true) :
    ∃ written, (s.insert (.forum f)).1 = .ok written ∧
      Joins f target ((s.insert (.forum f)).2.database.rowsOf tablePrefix "categories")
        (s.database.rowsOf tablePrefix "forums") written
        ((s.insert (.forum f)).2.database.rowsOf tablePrefix "forums") := by
  obtain ⟨c, categories, -⟩ := listed.categories
  obtain ⟨t, forums, -⟩ := listed.forums
  rw [listed.rowsOf (by decide) categories] at few
  have small : Row.fits (Sink.categoryRow (Sink.categoryOf f)) = true := by
    simp [Row.fits, Sink.categoryRow, Sink.categoryOf, position]
  obtain ⟨found, answer⟩ : ∃ found, (s.resolveCategory (Sink.categoryOf f)).1 = .ok found := by
    have resolved := regular.categorizes categories few (Sink.categoryOf f)
    generalize s.resolveCategory (Sink.categoryOf f) = outcome at resolved ⊢
    cases resolved with
    | wide wide => exact absurd (wide.symm.trans small) (by decide)
    | found => exact ⟨_, rfl⟩
    | created => exact ⟨_, rfl⟩
  obtain ⟨more, -, between, answers⟩ := listed.resolveCategory regular.isOpen (Sink.categoryOf f)
  have keeps := regular.keeps_resolveCategory (Sink.categoryOf f)
  have same : (s.resolveCategory (Sink.categoryOf f)).2.database.rowsOf tablePrefix "forums" =
      s.database.rowsOf tablePrefix "forums" := by
    rw [listed.rowsOf (by decide) forums,
      between.rowsOf (by decide) ((keeps.others "forums" (by decide) (by decide)).trans forums)]
  obtain ⟨written, answered, joins⟩ := between.place_joins (regular.resolveCategory _).regular
    (signposted.keeps keeps (by decide)) (by rwa [same]) redirect own (answers found answer)
    (regular.category_fits answer)
  rw [same] at joins
  refine ⟨written, ?_, ?_⟩
  · rw [regular.insert_answer, Sink.writeRecord, Sink.writeForum_ok answer, answered]
    rfl
  · rwa [regular.insert_eq, Sink.noting_database, Sink.writeRecord, Sink.writeForum_ok answer]

end Catalogued

theorem Creatable.signposted (creatable : Creatable db tablePrefix) :
    ∃ start, (Sink.connect (created db tablePrefix) tablePrefix).Signposted start ∧
      (Sink.connect (created db tablePrefix) tablePrefix).Regular start := by
  obtain ⟨start, serves, tables⟩ := creatable.tables
  obtain ⟨other, regular⟩ := creatable.regular
  generalize created db tablePrefix = made at serves tables regular ⊢
  obtain rfl := serves.start_unique regular.toServes
  exact ⟨start, ⟨_, tables _ Sink.forums_mem.1, .nil⟩, regular⟩

/-- Whatever a board was asked that does not close it: among its forums no redirect is twice, and one that comes is
added if and only if it is not among them. No row of any table goes or changes for it. -/
theorem Creatable.redirect_once (creatable : Creatable db tablePrefix) {calls : List Call}
    (others : .operation .close ∉ calls) :
    let s := Call.afterAll (Sink.connect db tablePrefix).provision.2 calls
    let forums := s.database.rowsOf tablePrefix "forums"
    (∀ name target, (forums.filter (Row.meets · (redirectRow name target))).length ≤ 1) ∧
    ∀ f target, f.redirect = some target → Sink.modest f = true → Value.fits (.int f.categoryPosition) = true →
      (∀ n ∈ forums.filterMap StoredTable.number?, n < maxInt) →
      ((s.database.rowsOf tablePrefix "categories").length : Int) < maxInt →
      let after := (s.insert (.forum f)).2.database
      (∃ written, (s.insert (.forum f)).1 = .ok written ∧
        (written = true ↔ ∀ row ∈ forums, row.meets (redirectRow f.name target) = false) ∧
        Joins f target (after.rowsOf tablePrefix "categories") forums written (after.rowsOf tablePrefix "forums")) ∧
      ∀ name t, s.database.table? name = some t → ∃ more, after.table? name = some more ∧ t.rows <+: more.rows := by
  obtain ⟨begin, signposted, regular⟩ := creatable.signposted
  obtain ⟨_, empty⟩ := creatable.catalogued
  rw [creatable.provision]
  generalize Sink.connect (created db tablePrefix) tablePrefix = board at signposted regular empty
  intro s forums
  have regular' : s.Regular begin := regular.afterAll others
  have signposted' : s.Signposted begin := signposted.afterAll regular others
  obtain ⟨start, held, listed⟩ := empty.anyCalls calls
  change Catalogued tablePrefix start s held _ at listed
  obtain rfl := regular'.start_unique (listed.serves regular'.isOpen)
  constructor
  · obtain ⟨t, there, signposts⟩ := signposted'
    have rows : forums = t.rows := listed.rowsOf (by decide) there
    rw [rows]
    exact signposts.once
  · intro f target redirect own position below few after
    obtain ⟨written, answered, joins⟩ :=
      listed.insert_joins regular' signposted' below few redirect own position
    exact ⟨⟨written, answered, joins.written_iff, joins⟩, fun name t there => (s.receives_insert (.forum f)).kept there⟩

/-- A second redirect of one name, whose number comes after those of a forum below zero and the first redirect. -/
theorem Creatable.redirect_once_negative :
    let calls : List Call := [
      .operation (.insert (.forum { id := some (-5), name := "News", categoryName := "General" })),
      .operation (.insert (.forum { name := "Wiki", redirect := some "wiki", categoryName := "General" })),
      .reconnect]
    let f : Forum := { name := "Wiki", redirect := some "mirror", categoryName := "Else" }
    let s := Call.afterAll (Sink.connect {} "").provision.2 calls
    let forums := s.database.rowsOf "" "forums"
    let after := (s.insert (.forum f)).2.database
    Creatable {} "" ∧ .operation .close ∉ calls ∧ f.redirect = some "mirror" ∧ Sink.modest f = true ∧
    Value.fits (.int f.categoryPosition) = true ∧ (∀ n ∈ forums.filterMap StoredTable.number?, n < maxInt) ∧
    ((s.database.rowsOf "" "categories").length : Int) < maxInt ∧
    (∀ name target, (forums.filter (Row.meets · (redirectRow name target))).length ≤ 1) ∧
    (∃ written, (s.insert (.forum f)).1 = .ok written ∧
      (written = true ↔ ∀ row ∈ forums, row.meets (redirectRow f.name "mirror") = false) ∧
      Joins f "mirror" (after.rowsOf "" "categories") forums written (after.rowsOf "" "forums")) := by
  intro calls f s forums after
  have creatable : Creatable {} "" := creatable_plain (by decide +kernel) (by decide +kernel)
  have others : .operation .close ∉ calls := by decide
  obtain ⟨below, few⟩ : (∀ n ∈ forums.filterMap StoredTable.number?, n < maxInt) ∧
      ((s.database.rowsOf "" "categories").length : Int) < maxInt := by decide +kernel
  obtain ⟨once, joins⟩ := creatable.redirect_once others
  exact ⟨creatable, others, rfl, by decide, by decide, below, few, once,
    (joins f "mirror" rfl (by decide) (by decide) below few).1⟩

end BoardMigration.Store
