import BoardMigration.Proofs.Store.Regular

/-! Gateways that read the same. What a gateway remembers of categories saves it looking them up, and
shows in no answer; no more does an open transaction. -/
namespace BoardMigration.Store

open Schema (Table)

theorem Database.table?_replace_self {db : Database} {t : StoredTable} {name : String}
    (there : db.table? name = some t) (other : String) :
    (db.replace t).table? other = db.table? other := by
  rw [table?_replace]
  split
  · next same =>
    have here : db.table? other = some t := by
      rw [← there, table?, table?, ← same, table?_name there]
    rw [here, Option.map_some]
  · rfl

namespace Sink

/-- Gateways that read the same and differ at most in the categories they remember and in their transactions. -/
structure Alike (s t : Sink) : Prop where
  isOpen : s.isOpen = t.isOpen
  tablePrefix : s.tablePrefix = t.tablePrefix
  tables : ∀ name, s.database.table? name = t.database.table? name

variable {s t u : Sink} {start : String}

namespace Alike

theorem refl (s : Sink) : Alike s s := ⟨rfl, rfl, fun _ => rfl⟩

theorem symm (alike : Alike s t) : Alike t s :=
  ⟨alike.isOpen.symm, alike.tablePrefix.symm, fun name => (alike.tables name).symm⟩

theorem trans (first : Alike s t) (second : Alike t u) : Alike s u :=
  ⟨first.isOpen.trans second.isOpen, first.tablePrefix.trans second.tablePrefix,
    fun name => (first.tables name).trans (second.tables name)⟩

theorem remember (alike : Alike s t) (key : CategoryKey) (n : Int) : Alike s (t.remember key n) :=
  ⟨alike.isOpen, alike.tablePrefix, alike.tables⟩

theorem noting (alike : Alike s t) (first second : Bool) : Alike (s.noting first) (t.noting second) :=
  ⟨alike.isOpen, alike.tablePrefix, alike.tables⟩

theorem replace {table : StoredTable} {name : String}
    (there : s.database.table? name = some table) :
    Alike s { s with database := s.database.replace table } :=
  ⟨rfl, rfl, fun other => (Database.table?_replace_self there other).symm⟩

end Alike

theorem Grows.alike (grows : Grows start s t) (alike : Alike t u) : Grows start s u where
  isOpen := alike.isOpen.symm.trans grows.isOpen
  tablePrefix := alike.tablePrefix.symm.trans grows.tablePrefix
  missing := fun name known missing =>
    (alike.tables _).symm.trans (grows.missing name known missing)
  tables := by
    intro name known table there
    obtain ⟨more, found, grown⟩ := grows.tables name known table there
    exact ⟨more, (alike.tables _).symm.trans found, grown⟩

theorem Alike.added (alike : Alike s t) (table : StoredTable) :
    Alike { s with database := s.database.replace table }
      { t with database := t.database.replace table } :=
  ⟨alike.isOpen, alike.tablePrefix, fun name => by simp only [Database.table?_replace, alike.tables]⟩

theorem Alike.table (alike : Alike s t) (statement : Statement) (name : String) :
    s.table statement name = t.table statement name := by
  simp only [Sink.table, alike.tablePrefix, alike.tables]

theorem Alike.given (alike : Alike s t) (table : StoredTable) (name : String) (row : Row) :
    s.given table name row = t.given table name row := by
  simp only [Sink.given, alike.tablePrefix]

theorem Alike.find (alike : Alike s t) (name : String) (criteria : Row) :
    s.find name criteria = t.find name criteria := by
  rw [Sink.find, Sink.find, alike.table]

/-- Two outcomes with one answer that leave the same to be read. -/
def Agree {α : Type} (first second : α × Sink) : Prop :=
  first.1 = second.1 ∧ Alike first.2 second.2

/-- A category with a number is answered with it. -/
theorem Regular.resolveCategory_found (regular : s.Regular start) {key : CategoryKey} {n : Int}
    (stored : s.find "categories" (categoryRow key) = .ok (some n)) :
    (s.resolveCategory key).1 = .ok (n, false) ∧ Alike s (s.resolveCategory key).2 := by
  unfold Sink.resolveCategory
  cases cached : s.known? key with
  | some m =>
    have same := (regular.recalls key m cached).symm.trans stored
    obtain rfl := Option.some.inj (Except.ok.inj same)
    exact ⟨rfl, .refl s⟩
  | none =>
    rw [stored]
    exact ⟨rfl, (Alike.refl s).remember key n⟩

/-- Nothing is remembered of a category that is not stored. -/
theorem Regular.known?_eq_none (regular : s.Regular start) {key : CategoryKey}
    (missing : ∀ n, s.find "categories" (categoryRow key) ≠ .ok (some n)) : s.known? key = none := by
  cases cached : s.known? key with
  | none => rfl
  | some n => exact absurd (regular.recalls key n cached) (missing n)

/-- What comes of asking for a category when there is room for its row. -/
inductive Categorizes (s : Sink) (categories : StoredTable) (key : CategoryKey) :
    Except Obstacle (Int × Bool) × Sink → Prop
  | wide (wide : Row.fits (categoryRow key) = false) : Categorizes s categories key (.error .overflow, s)
  | found {n : Int} {after : Sink} (small : Row.fits (categoryRow key) = true)
      (found : categories.find? (categoryRow key) = some n) (alike : Alike s after) :
      Categorizes s categories key (.ok (n, false), after)
  | created (small : Row.fits (categoryRow key) = true) (missing : categories.find? (categoryRow key) = none) :
      Categorizes s categories key (.ok (categories.nextNumber, true), Sink.remember { s with
        database := s.database.replace (categories.insertIfAbsent (categoryRow key)).1 } key categories.nextNumber)

theorem Regular.categorizes (regular : s.Regular start) {categories : StoredTable}
    (there : s.database.table? (start ++ "categories") = some categories)
    (few : (categories.rows.length : Int) < maxInt) (key : CategoryKey) :
    Categorizes s categories key (s.resolveCategory key) := by
  have looked := regular.find (show "categories" ∈ Table.names by decide) (categoryRow key)
  rw [there] at looked
  dsimp only at looked
  have stored {n : Int} (ok : s.find "categories" (categoryRow key) = .ok (some n)) :
      Row.fits (categoryRow key) = true ∧ categories.find? (categoryRow key) = some n := by
    rw [ok] at looked
    split at looked
    · next small => exact ⟨small, (Except.ok.inj looked).symm⟩
    · cases looked
  have resolved := regular.resolves key
  generalize s.resolveCategory key = outcome at resolved ⊢
  cases resolved with
  | known cached =>
    obtain ⟨small, found⟩ := stored (regular.recalls key _ cached)
    exact .found small found (.refl s)
  | refused _ failed =>
    rw [failed] at looked
    split at looked
    · cases looked
    · next wide =>
      rw [Except.error.inj looked]
      exact .wide (Bool.eq_false_iff.mpr wide)
  | found _ ok =>
    obtain ⟨small, found⟩ := stored ok
    exact .found small found ((Alike.refl s).remember key _)
  | full _ here _ _ full =>
    obtain rfl := Option.some.inj (there.symm.trans here)
    exact absurd (full.symm.trans (StoredTable.isFull_eq_false few)) (by decide)
  | created _ here missing small =>
    obtain rfl := Option.some.inj (there.symm.trans here)
    exact .created small missing

theorem Alike.resolveCategory (alike : Alike s t) (regular : s.Regular start)
    (other : t.Regular start) (key : CategoryKey) :
    Agree (s.resolveCategory key) (t.resolveCategory key) := by
  have looked := alike.find "categories" (categoryRow key)
  by_cases stored : ∃ n, s.find "categories" (categoryRow key) = .ok (some n)
  · obtain ⟨n, here⟩ := stored
    obtain ⟨answer, still⟩ := regular.resolveCategory_found here
    obtain ⟨answer', still'⟩ := other.resolveCategory_found (looked ▸ here)
    exact ⟨answer.trans answer'.symm, (still.symm.trans alike).trans still'⟩
  · rw [not_exists] at stored
    have fresh : s.known? key = none := regular.known?_eq_none stored
    have fresh' : t.known? key = none := other.known?_eq_none (by rwa [← looked])
    rw [Sink.resolveCategory, Sink.resolveCategory, fresh, fresh', ← looked, ← alike.table]
    cases here : s.find "categories" (categoryRow key) with
    | error obstacle => exact ⟨rfl, alike⟩
    | ok found =>
      cases found with
      | some n => exact absurd here (stored n)
      | none =>
        cases s.table .write "categories" with
        | error obstacle => exact ⟨rfl, alike⟩
        | ok table =>
          dsimp only
          split
          · exact ⟨rfl, alike⟩
          · have added := alike.added (table.insertIfAbsent (categoryRow key)).1
            exact ⟨rfl, added.isOpen, added.tablePrefix, added.tables⟩

theorem Alike.write (alike : Alike s t) (name : String) (row : Row) :
    Agree (s.write name row) (t.write name row) := by
  rw [Sink.write, Sink.write, ← alike.table]
  cases s.table .write name with
  | error obstacle => exact ⟨rfl, alike⟩
  | ok table =>
    dsimp only
    rw [← alike.given]
    cases s.given table name row with
    | error fault => exact ⟨rfl, alike⟩
    | ok own =>
      dsimp only
      split
      · exact ⟨rfl, alike⟩
      · exact ⟨rfl, alike.added _⟩

theorem Alike.writeRedirect (alike : Alike s t) (serves : s.Serves start) (other : t.Serves start)
    {f : Forum} {target : String} (redirect : f.redirect = some target) (category : Int) :
    Agree (s.writeRedirect (forumRow f category)) (t.writeRedirect (forumRow f category)) := by
  rw [serves.writeRedirect_eq redirect, other.writeRedirect_eq redirect, ← alike.tables]
  cases s.database.table? (start ++ "forums") with
  | none => exact ⟨rfl, alike⟩
  | some table =>
    dsimp only
    split
    · exact ⟨rfl, alike⟩
    · split
      · exact ⟨rfl, alike.added _⟩
      · exact ⟨rfl, alike⟩

theorem Alike.place (alike : Alike s t) (serves : s.Serves start) (other : t.Serves start) (f : Forum)
    (category : Int) : Agree (s.place f category) (t.place f category) := by
  cases redirect : f.redirect with
  | some target =>
    rw [place_redirect redirect, place_redirect redirect]
    exact alike.writeRedirect serves other redirect category
  | none =>
    rw [place_plain redirect, place_plain redirect]
    exact alike.write _ _

theorem Alike.writeForum (alike : Alike s t) (regular : s.Regular start) (other : t.Regular start)
    (f : Forum) : Agree (s.writeForum f) (t.writeForum f) := by
  obtain ⟨same, after⟩ := alike.resolveCategory regular other (categoryOf f)
  cases answer : (s.resolveCategory (categoryOf f)).1 with
  | error obstacle =>
    rw [writeForum_error answer, writeForum_error (same ▸ answer)]
    exact ⟨rfl, after⟩
  | ok found =>
    rw [writeForum_ok answer, writeForum_ok (same ▸ answer)]
    exact after.place (regular.resolveCategory _).regular.toServes
      (other.resolveCategory _).regular.toServes f found.1

theorem Alike.writeRecord (alike : Alike s t) (regular : s.Regular start) (other : t.Regular start)
    (record : Record) : Agree (s.writeRecord record) (t.writeRecord record) := by
  cases record with
  | category c =>
    obtain ⟨same, after⟩ := alike.resolveCategory regular other (c.name, c.position)
    rw [writeRecord_category, writeRecord_category, same]
    exact ⟨rfl, after⟩
  | forum f => exact alike.writeForum regular other f
  | topic topic => exact alike.write _ _
  | post p => exact alike.write _ _
  | user u => exact alike.write _ _

/-- Gateways that read the same answer the same, and read the same afterwards. -/
theorem Alike.insert (alike : Alike s t) (regular : s.Regular start) (other : t.Regular start)
    (record : Record) : Agree (s.insert record) (t.insert record) := by
  obtain ⟨same, after⟩ := alike.writeRecord regular other record
  constructor
  · rw [regular.insert_answer, other.insert_answer, same]
  · rw [regular.insert_eq, other.insert_eq]
    exact after.noting _ _

end Sink
end BoardMigration.Store
