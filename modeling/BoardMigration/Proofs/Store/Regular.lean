import BoardMigration.Proofs.Store.Growth
import BoardMigration.Proofs.Store.Sink

/-! Gateways in good order. Whatever is inserted, the tables of the board keep their columns and grow at
the end only, and the numbers a gateway remembers are those of the categories. -/
namespace BoardMigration.Store.Sink

open Schema (Table)

variable {s after : Sink} {start : String}

theorem Serves.find (serves : s.Serves start) {name : String} (known : name ∈ Table.names)
    (criteria : Row) :
    s.find name criteria =
      match s.database.table? (start ++ name) with
      | none => .error (.sql (.noSuchTable (start ++ name)))
      | some t => if criteria.fits then .ok (t.find? criteria) else .error .overflow := by
  rw [Sink.find, serves.table known]
  cases s.database.table? (start ++ name) <;> rfl

/-- The answers to a category's number, and what they leave behind. -/
inductive Resolves (start : String) (s : Sink) (key : CategoryKey) :
    Except Obstacle (Int × Bool) × Sink → Prop
  | known {n : Int} (cached : s.known? key = some n) : Resolves start s key (.ok (n, false), s)
  | refused {obstacle : Obstacle} (fresh : s.known? key = none)
      (failed : s.find "categories" (categoryRow key) = .error obstacle) :
      Resolves start s key (.error obstacle, s)
  | found {n : Int} (fresh : s.known? key = none)
      (stored : s.find "categories" (categoryRow key) = .ok (some n)) :
      Resolves start s key (.ok (n, false), s.remember key n)
  | full {t : StoredTable} (fresh : s.known? key = none)
      (there : s.database.table? (start ++ "categories") = some t)
      (missing : t.find? (categoryRow key) = none) (small : Row.fits (categoryRow key) = true)
      (full : t.isFull = true) : Resolves start s key (.error (.sql .full), s)
  | created {t : StoredTable} (fresh : s.known? key = none)
      (there : s.database.table? (start ++ "categories") = some t)
      (missing : t.find? (categoryRow key) = none) (small : Row.fits (categoryRow key) = true)
      (free : t.isFull = false) :
      Resolves start s key (.ok (t.nextNumber, true), Sink.remember { s with
        database := s.database.replace (t.insertIfAbsent (categoryRow key)).1 } key t.nextNumber)

theorem Serves.resolves (serves : s.Serves start) (key : CategoryKey) :
    Resolves start s key (s.resolveCategory key) := by
  have categories : "categories" ∈ Table.names := by decide
  unfold resolveCategory
  cases cached : s.known? key with
  | some n => exact .known cached
  | none =>
    cases looked : s.find "categories" (categoryRow key) with
    | error obstacle => exact .refused cached looked
    | ok number =>
      cases number with
      | some n => exact .found cached looked
      | none =>
        rw [serves.find categories] at looked
        rw [serves.table categories]
        cases there : s.database.table? (start ++ "categories") with
        | none => simp [there] at looked
        | some t =>
          rw [there] at looked
          dsimp only at looked ⊢
          split at looked
          case isFalse => cases looked
          case isTrue small =>
            cases full : t.isFull with
            | true => exact .full cached there (Except.ok.inj looked) small full
            | false => exact .created cached there (Except.ok.inj looked) small full

/-- A redirect forum under a number. -/
def renumbered (f : Forum) (n : Int) : Forum := { f with id := some n }

theorem forumRow_renumbered (f : Forum) (n category : Int) :
    ((forumRow f category).map fun (column, value) =>
      (column, if column == "id" then .int n else value)) = forumRow (renumbered f n) category := rfl

theorem Serves.writeRedirect_eq (serves : s.Serves start) {f : Forum} {target : String}
    (redirect : f.redirect = some target) (category : Int) :
    s.writeRedirect (forumRow f category) =
      match s.database.table? (start ++ "forums") with
      | none => (.error (.sql (.noSuchTable (start ++ "forums"))), s)
      | some t =>
        if t.find? (redirectRow f.name target) ≠ none then (.ok false, s)
        else
          let row := forumRow (renumbered f t.above) category
          if row.fits then
            (.ok true, { s with database := s.database.replace (t.insertIfAbsent row).1 })
          else (.error .overflow, s) := by
  have forums : "forums" ∈ Table.names := by decide
  have criteria : [("forum_name", (forumRow f category).value "forum_name"),
      ("redirect_url", (forumRow f category).value "redirect_url")] = redirectRow f.name target := by
    simp [forumRow, redirectRow, Record.row, Row.value, redirect, Value.ofText?]
  have small : Row.fits (redirectRow f.name target) = true := rfl
  rw [writeRedirect, criteria, serves.find forums, serves.table forums]
  cases there : s.database.table? (start ++ "forums") with
  | none => rfl
  | some t =>
    simp only [small, if_true]
    cases found : t.find? (redirectRow f.name target) with
    | some n => simp
    | none =>
      have above : t.highest?.getD 0 + 1 = t.above := rfl
      simp only [forumRow_renumbered, above, serves.write_eq forums, there]
      cases Row.fits (forumRow (renumbered f t.above) category) <;> simp

/-- A gateway whose tables have their columns and hold no number of more than 64 bits, and which
remembers categories by the numbers they have. -/
structure Regular (s : Sink) (start : String) : Prop extends Serves s start where
  tables : ∀ shape ∈ Table.all, ∀ t, s.database.table? (start ++ shape.name) = some t →
    t.shape = shape ∧ ∀ row ∈ t.rows, Row.fits row = true
  recalls : ∀ key n, s.known? key = some n →
    s.find "categories" (categoryRow key) = .ok (some n)

/-- A gateway after its tables have grown. -/
structure Grows (start : String) (s after : Sink) : Prop where
  isOpen : after.isOpen = s.isOpen
  tablePrefix : after.tablePrefix = s.tablePrefix
  missing : ∀ name ∈ Table.names, s.database.table? (start ++ name) = none →
    after.database.table? (start ++ name) = none
  tables : ∀ name ∈ Table.names, ∀ t, s.database.table? (start ++ name) = some t →
    ∃ more, after.database.table? (start ++ name) = some more ∧ t.Extends more

namespace Grows

theorem refl (start : String) (s : Sink) : Grows start s s :=
  ⟨rfl, rfl, fun _ _ missing => missing, fun _ _ t there => ⟨t, there, .refl t⟩⟩

theorem trans {last : Sink} (first : Grows start s after) (second : Grows start after last) :
    Grows start s last where
  isOpen := second.isOpen.trans first.isOpen
  tablePrefix := second.tablePrefix.trans first.tablePrefix
  missing := fun name known missing => second.missing name known (first.missing name known missing)
  tables := by
    intro name known t there
    obtain ⟨more, between, grown⟩ := first.tables name known t there
    obtain ⟨most, last, further⟩ := second.tables name known more between
    exact ⟨most, last, grown.trans further⟩

theorem remember (grows : Grows start s after) (key : CategoryKey) (n : Int) :
    Grows start s (after.remember key n) :=
  ⟨grows.isOpen, grows.tablePrefix, grows.missing, grows.tables⟩

theorem noting (grows : Grows start s after) (pending : Bool) : Grows start s (after.noting pending) :=
  ⟨grows.isOpen, grows.tablePrefix, grows.missing, grows.tables⟩

theorem of_noting {pending : Bool} (grows : Grows start (s.noting pending) after) : Grows start s after :=
  ⟨grows.isOpen, grows.tablePrefix, grows.missing, grows.tables⟩

theorem serves (grows : Grows start s after) (serves : s.Serves start) : after.Serves start where
  isOpen := grows.isOpen.trans serves.isOpen
  reads := by
    rw [grows.tablePrefix]
    exact serves.reads

/-- A lookup that fails goes on failing. -/
theorem find_error (grows : Grows start s after) (serves : s.Serves start) {name : String}
    (known : name ∈ Table.names) {criteria : Row} {obstacle : Obstacle}
    (failed : s.find name criteria = .error obstacle) : after.find name criteria = .error obstacle := by
  rw [serves.find known] at failed
  rw [(grows.serves serves).find known]
  cases there : s.database.table? (start ++ name) with
  | none =>
    rw [there] at failed
    rw [grows.missing name known there]
    exact failed
  | some t =>
    obtain ⟨more, here, -⟩ := grows.tables name known t there
    rw [there] at failed
    rw [here]
    dsimp only at failed ⊢
    split at failed
    · cases failed
    · next wide => rw [if_neg wide, ← failed]

/-- A category that has a number keeps it. -/
theorem find_category (grows : Grows start s after) (regular : s.Regular start) {key : CategoryKey}
    {n : Int} (found : s.find "categories" (categoryRow key) = .ok (some n)) :
    after.find "categories" (categoryRow key) = .ok (some n) := by
  have categories : "categories" ∈ Table.names := by decide
  rw [regular.find categories] at found
  rw [(grows.serves regular.toServes).find categories]
  cases there : s.database.table? (start ++ "categories") with
  | none => simp [there] at found
  | some t =>
    obtain ⟨more, here, grown⟩ := grows.tables _ categories t there
    have shape := (regular.tables Table.categories (by decide) t there).1
    rw [there] at found
    rw [here]
    dsimp only at found ⊢
    split at found
    · next small => rw [if_pos small, grown.category shape key n (Except.ok.inj found)]
    · cases found

end Grows

/-- Whether a transaction is open shows in no table. -/
theorem Regular.noting (regular : s.Regular start) (pending : Bool) : (s.noting pending).Regular start :=
  ⟨⟨regular.isOpen, regular.reads⟩, regular.tables, regular.recalls⟩

/-- A gateway that is regular and whose tables have only grown. -/
structure Advances (start : String) (s after : Sink) : Prop where
  regular : after.Regular start
  grows : Grows start s after

theorem Regular.still (regular : s.Regular start) : Advances start s s := ⟨regular, .refl start s⟩

theorem Advances.trans {last : Sink} (first : Advances start s after)
    (second : Advances start after last) : Advances start s last :=
  ⟨second.regular, first.grows.trans second.grows⟩

theorem Advances.noting (advances : Advances start s after) (pending : Bool) :
    Advances start s (after.noting pending) :=
  ⟨advances.regular.noting pending, advances.grows.noting pending⟩

theorem Advances.remember (advances : Advances start s after) {key : CategoryKey} {n : Int}
    (found : after.find "categories" (categoryRow key) = .ok (some n)) :
    Advances start s (after.remember key n) where
  regular := by
    refine ⟨⟨advances.regular.isOpen, advances.regular.reads⟩, advances.regular.tables, ?_⟩
    intro other m cached
    by_cases same : key = other
    · subst same
      have number : m = n := by simpa [known?, Sink.remember] using cached.symm
      subst number
      exact found
    · apply advances.regular.recalls other m
      simpa [known?, Sink.remember, same] using cached
  grows := advances.grows.remember key n

/-- A table may take the place of one that it extends. -/
theorem Regular.replace (regular : s.Regular start) {shape : Table} (member : shape ∈ Table.all)
    {t more : StoredTable} (there : s.database.table? (start ++ shape.name) = some t)
    (named : more.name = t.name) (grown : t.Extends more)
    (fits : ∀ row ∈ more.rows, Row.fits row = true) :
    Advances start s { s with database := s.database.replace more } := by
  have known := Database.name_mem_names member
  have keeps := keeps_replace known named there
  have here : (s.database.replace more).table? (start ++ shape.name) = some more := by
    have folded : foldName more.name = foldName (start ++ shape.name) := by
      rw [named, Database.table?_name there]
    rw [Database.table?_replace, if_pos folded, there]
    rfl
  have others {name : String} (inside : name ∈ Table.names) (differs : name ≠ shape.name) :
      (s.database.replace more).table? (start ++ name) = s.database.table? (start ++ name) :=
    keeps.others name inside (by simpa using differs)
  have grows : Grows start s { s with database := s.database.replace more } := by
    refine ⟨rfl, rfl, ?_, ?_⟩
    · intro name inside missing
      by_cases same : name = shape.name
      · subst same
        exact absurd (missing.symm.trans there) (by simp)
      · exact (others inside same).trans missing
    · intro name inside u found
      by_cases same : name = shape.name
      · subst same
        obtain rfl := Option.some.inj (there.symm.trans found)
        exact ⟨more, here, grown⟩
      · exact ⟨u, (others inside same).trans found, .refl u⟩
  refine ⟨⟨grows.serves regular.toServes, ?_, ?_⟩, grows⟩
  · intro other inside u found
    by_cases same : other = shape
    · subst same
      obtain rfl := Option.some.inj (here.symm.trans found)
      exact ⟨grown.shape.trans (regular.tables other inside t there).1, fits⟩
    · have differs : other.name ≠ shape.name := fun named =>
        same (Database.shape_eq_of_name inside member named)
      rw [others (Database.name_mem_names inside) differs] at found
      exact regular.tables other inside u found
  · exact fun key n cached => grows.find_category regular (regular.recalls key n cached)

theorem categories_mem : Table.categories ∈ Table.all ∧ Table.categories.name = "categories" := by
  decide

theorem forums_mem : Table.forums ∈ Table.all ∧ Table.forums.name = "forums" := by decide

theorem apart_of_numbered {shape : Table} (member : shape ∈ numbered) :
    shape ≠ Table.categories ∧ shape ≠ Table.forums := by
  revert member shape
  decide

theorem Regular.resolveCategory (regular : s.Regular start) (key : CategoryKey) :
    Advances start s (s.resolveCategory key).2 := by
  have resolved := regular.resolves key
  generalize s.resolveCategory key = outcome at resolved
  cases resolved with
  | known => exact regular.still
  | refused => exact regular.still
  | found _ stored => exact regular.still.remember stored
  | full => exact regular.still
  | @created t _ there missing small free =>
    obtain ⟨shape, fits⟩ := regular.tables _ categories_mem.1 t there
    have known : t.shape ∈ Table.all := shape ▸ categories_mem.1
    have advances := regular.replace categories_mem.1 there (t.insertIfAbsent_name _)
      (StoredTable.extends_category shape free missing)
      (StoredTable.insertIfAbsent_fits known fits small)
    apply advances.remember
    have categories : "categories" ∈ Table.names := by decide
    have here := (advances.grows.serves regular.toServes).find categories (categoryRow key)
    rw [Database.table?_added there] at here
    rw [here]
    dsimp only
    rw [if_pos small, StoredTable.insertIfAbsent_category shape free]
    congr 1
    apply StoredTable.find?_first rfl missing
    · simp [StoredTable.meets_categoryEntry]
    · rfl

theorem Regular.write (regular : s.Regular start) {shape : Table} (member : shape ∈ Table.all)
    (row : Row) (grown : ∀ t, s.database.table? (start ++ shape.name) = some t → t.shape = shape →
      t.Extends (t.insertIfAbsent row).1) : Advances start s (s.write shape.name row).2 := by
  rw [regular.write_eq (Database.name_mem_names member)]
  cases there : s.database.table? (start ++ shape.name) with
  | none => exact regular.still
  | some t =>
    obtain ⟨same, fits⟩ := regular.tables shape member t there
    have known : t.shape ∈ Table.all := same ▸ member
    dsimp only
    split
    · next small =>
      exact regular.replace member there (t.insertIfAbsent_name row) (grown t there same)
        (StoredTable.insertIfAbsent_fits known fits small)
    · exact regular.still

theorem Regular.writeRedirect (regular : s.Regular start) {f : Forum} {target : String}
    (redirect : f.redirect = some target) (category : Int) :
    Advances start s (s.writeRedirect (forumRow f category)).2 := by
  rw [regular.writeRedirect_eq redirect]
  cases there : s.database.table? (start ++ "forums") with
  | none => exact regular.still
  | some t =>
    obtain ⟨shape, fits⟩ := regular.tables _ forums_mem.1 t there
    have known : t.shape ∈ Table.all := shape ▸ forums_mem.1
    dsimp only
    split
    · exact regular.still
    · split
      · next small =>
        have number : Value.fits (.int t.above) = true := by
          apply List.all_eq_true.mp small ("id", .int t.above)
          simp [forumRow, Record.row, renumbered, Value.ofInt?]
        have untopped := (StoredTable.above_fits_iff fits).mp number
        exact regular.replace forums_mem.1 there (t.insertIfAbsent_name _)
          (StoredTable.extends_forum shape _ category (.inr untopped))
          (StoredTable.insertIfAbsent_fits known fits small)
      · exact regular.still

/-- Writes a forum whose category has a number. -/
def place (s : Sink) (f : Forum) (category : Int) : Except Obstacle Bool × Sink :=
  if f.isRedirect then s.writeRedirect (forumRow f category) else s.write "forums" (forumRow f category)

theorem place_redirect {f : Forum} {target : String} (redirect : f.redirect = some target) (s : Sink)
    (category : Int) : s.place f category = s.writeRedirect (forumRow f category) := by
  simp [place, Forum.isRedirect, redirect]

theorem place_plain {f : Forum} (plain : f.redirect = none) (s : Sink) (category : Int) :
    s.place f category = s.write Table.forums.name (forumRow f category) := by
  simp [place, Forum.isRedirect, plain, forums_mem.2]

/-- What the category of a forum is known by. -/
def categoryOf (f : Forum) : CategoryKey := (f.categoryName, f.categoryPosition)

theorem writeForum_error {f : Forum} {obstacle : Obstacle}
    (refused : (s.resolveCategory (categoryOf f)).1 = .error obstacle) :
    s.writeForum f = (.error obstacle, (s.resolveCategory (categoryOf f)).2) := by
  rw [writeForum]
  split
  · next resolved =>
    rw [categoryOf, resolved] at refused ⊢
    rw [Except.error.inj refused]
  · next resolved =>
    rw [categoryOf, resolved] at refused
    cases refused

theorem writeForum_ok {f : Forum} {found : Int × Bool}
    (answered : (s.resolveCategory (categoryOf f)).1 = .ok found) :
    s.writeForum f = (s.resolveCategory (categoryOf f)).2.place f found.1 := by
  rw [writeForum]
  split
  · next resolved =>
    rw [categoryOf, resolved] at answered
    cases answered
  · next resolved =>
    rw [categoryOf, resolved] at answered ⊢
    rw [← Except.ok.inj answered]
    rfl

theorem Regular.place (regular : s.Regular start) (f : Forum) (category : Int) :
    Advances start s (s.place f category).2 := by
  cases redirect : f.redirect with
  | some target =>
    rw [place_redirect redirect]
    exact regular.writeRedirect redirect category
  | none =>
    rw [place_plain redirect]
    exact regular.write forums_mem.1 (forumRow f category)
      fun t _ shape => StoredTable.extends_forum shape f _ (.inl redirect)

theorem Regular.writeForum (regular : s.Regular start) (f : Forum) :
    Advances start s (s.writeForum f).2 := by
  have first := regular.resolveCategory (categoryOf f)
  cases answer : (s.resolveCategory (categoryOf f)).1 with
  | error obstacle =>
    rw [writeForum_error answer]
    exact first
  | ok found =>
    rw [writeForum_ok answer]
    exact first.trans (first.regular.place f found.1)

theorem writeRecord_category (s : Sink) (c : Category) :
    s.writeRecord (.category c) =
      ((s.resolveCategory (c.name, c.position)).1.map (·.2),
        (s.resolveCategory (c.name, c.position)).2) := by
  rw [writeRecord]
  split
  · next resolved => rw [resolved]; rfl
  · next resolved => rw [resolved]; rfl

/-- A row may come to any table but those of categories and forums. -/
theorem Regular.write_numbered (regular : s.Regular start) {shape : Table} (member : shape ∈ numbered) (row : Row) :
    Advances start s (s.write shape.name row).2 := by
  apply regular.write (keyed_of_numbered member).1
  intro t _ same
  apply t.extends_insertIfAbsent
  rw [same]
  exact apart_of_numbered member

theorem Regular.writeRecord (regular : s.Regular start) (record : Record) :
    Advances start s (s.writeRecord record).2 := by
  cases record with
  | category c =>
    rw [writeRecord_category]
    exact regular.resolveCategory (c.name, c.position)
  | forum f => exact regular.writeForum f
  | topic t => exact regular.write_numbered (by decide : Table.topics ∈ _) _
  | post p => exact regular.write_numbered (by decide : Table.posts ∈ _) _
  | user u => exact regular.write_numbered (by decide : Table.users ∈ _) _

/-- Inserting a record keeps a gateway regular. -/
theorem Regular.insert (regular : s.Regular start) (record : Record) :
    Advances start s (s.insert record).2 := by
  rw [regular.insert_eq]
  exact (regular.writeRecord record).noting _

/-- Creating the tables puts a gateway in good order. -/
theorem Serves.regular_provision (serves : s.Serves start) :
    Regular { s with database := s.database.provision s.fullName, categories := [], pending := false } start := by
  have tables (shape : Table) (member : shape ∈ Table.all) := serves.table?_provision member
  generalize s.database.provision s.fullName = made at tables ⊢
  refine ⟨⟨serves.isOpen, serves.reads⟩, ?_, fun key n cached => by simp [known?] at cached⟩
  intro shape member t there
  have same := Option.some.inj ((tables shape member).symm.trans there)
  rw [← same]
  exact ⟨(Database.seeded_shape s.fullName shape).1, StoredTable.seeded_fits s.fullName member⟩

end BoardMigration.Store.Sink
