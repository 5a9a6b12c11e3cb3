import BoardMigration.Proofs.Store.Rows

/-! Tables grow: rows come at the end and none goes. Beyond that a category keeps its number, and a
redirect forum for which there is no number gets none later. -/
namespace BoardMigration.Store

open Schema (Table)

/-- The row of a forum whose category has a number. -/
def forumRow (f : Forum) (category : Int) : Row :=
  (Record.forum f).row ++ [("cat_id", .int category)]

def redirectRow (name target : String) : Row :=
  [("forum_name", .text name), ("redirect_url", .text target)]

theorem meets_redirectRow {row : Row} {f : Forum} (named : row.value "forum_name" = .text f.name)
    (aimed : row.value "redirect_url" = .ofText? f.redirect) (name target : String) :
    row.meets (redirectRow name target) = true ↔ f.name = name ∧ f.redirect = some target := by
  cases redirect : f.redirect <;> simp [redirectRow, Row.meets, named, aimed, redirect, Value.ofText?]

namespace StoredTable

variable {t after last : StoredTable}

def categoryEntry (n : Int) (key : CategoryKey) : Row := ("id", .int n) :: Sink.categoryRow key

theorem meets_categoryEntry (n : Int) (key other : CategoryKey) :
    (categoryEntry n key).meets (Sink.categoryRow other) = decide (key = other) := by
  obtain ⟨name, position⟩ := key
  obtain ⟨otherName, otherPosition⟩ := other
  rw [Bool.eq_iff_iff]
  simp [categoryEntry, Sink.categoryRow, Row.meets, Row.value]

/-- A category is added under the next number, if there is one. -/
theorem insertIfAbsent_category (same : t.shape = Table.categories) (free : t.isFull = false)
    (key : CategoryKey) : t.insertIfAbsent (Sink.categoryRow key) =
      ({ t with rows := t.rows ++ [categoryEntry t.nextNumber key] }, true) := by
  have complete : t.complete (Sink.categoryRow key) = categoryEntry t.nextNumber key := by
    simp [StoredTable.complete, same, Table.categories, Schema.Column.free, Schema.Column.needed,
      Sink.categoryRow, categoryEntry]
  have whole : t.lacks (categoryEntry t.nextNumber key) = false := by
    simp [StoredTable.lacks, same, Table.categories, Schema.Column.free, Schema.Column.needed,
      Sink.categoryRow, categoryEntry, Row.value]
  have apart : t.clashes (categoryEntry t.nextNumber key) = false := by
    rw [Bool.eq_false_iff, ne_eq, clashes_number (by rw [same]; rfl) rfl]
    simpa [isFull] using free
  rw [insertIfAbsent, complete]
  simp [whole, apart]

theorem numbered_forumRow {f : Forum} {n : Int} (number : f.id = some n) (category : Int) :
    Numbered Table.forums (forumRow f category) := by
  have only : ∀ column ∈ Table.forums.columns, column.kind = .key → column.name = "id" := by decide
  intro column member isKey
  rw [only column member isKey]
  exact ⟨n, by simp [forumRow, Record.row, number, Value.ofInt?]⟩

structure IsForumRow (t : StoredTable) (f : Forum) (n : Int) (row : Row) : Prop where
  id : row.value "id" = .int n
  name : row.value "forum_name" = .text f.name
  target : row.value "redirect_url" = .ofText? f.redirect
  whole : t.lacks row = false

theorem complete_forumRow (same : t.shape = Table.forums) (f : Forum) (category : Int) :
    t.IsForumRow f (f.id.getD t.nextNumber) (t.complete (forumRow f category)) := by
  constructor
  case id =>
    cases number : f.id <;>
      simp [StoredTable.complete, same, Table.forums, Schema.Column.free, forumRow, Record.row, number,
        Row.value, Value.ofInt?]
  all_goals
    simp [StoredTable.complete, StoredTable.lacks, same, Table.forums, Schema.Column.free,
      Schema.Column.needed, forumRow, Record.row, Row.value, Value.ofBool]

theorem IsForumRow.meets_iff {f : Forum} {n : Int} {row : Row} (held : t.IsForumRow f n row)
    (name target : String) :
    row.meets (redirectRow name target) = true ↔ f.name = name ∧ f.redirect = some target :=
  meets_redirectRow held.name held.target name target

/-- A table after more rows have come. -/
structure Extends (t after : StoredTable) : Prop where
  shape : after.shape = t.shape
  rows : t.rows <+: after.rows
  /-- A category keeps its number. -/
  category : t.shape = Table.categories → ∀ key n,
    t.find? (Sink.categoryRow key) = some n → after.find? (Sink.categoryRow key) = some n
  full : t.shape = Table.categories → t.isFull = true → after = t
  /-- Without a number above all others no redirect forum comes. -/
  redirect : t.shape = Table.forums → t.Topped → ∀ name target,
    t.find? (redirectRow name target) = none → after.find? (redirectRow name target) = none

namespace Extends

theorem refl (t : StoredTable) : t.Extends t :=
  ⟨rfl, List.prefix_rfl, fun _ _ _ found => found, fun _ _ => rfl, fun _ _ _ _ missing => missing⟩

theorem numbers (grown : t.Extends after) {n : Int} (taken : n ∈ t.numbers) : n ∈ after.numbers := by
  obtain ⟨row, member, held⟩ := mem_numbers.mp taken
  exact mem_numbers.mpr ⟨row, grown.rows.subset member, held⟩

theorem topped (grown : t.Extends after) (topped : t.Topped) : after.Topped := by
  obtain ⟨n, taken, top⟩ := topped
  exact ⟨n, grown.numbers taken, top⟩

theorem trans (first : t.Extends after) (second : after.Extends last) : t.Extends last where
  shape := second.shape.trans first.shape
  rows := first.rows.trans second.rows
  category := fun same key n found =>
    second.category (first.shape.trans same) key n (first.category same key n found)
  full := by
    intro same full
    have still := first.full same full
    subst still
    exact second.full same full
  redirect := fun same topped name target missing =>
    second.redirect (first.shape.trans same) (first.topped topped) name target
      (first.redirect same topped name target missing)

end Extends

/-- Rows that are neither categories nor forums change nothing but the rows. -/
theorem extends_insertIfAbsent (t : StoredTable) (given : Row)
    (other : t.shape ≠ Table.categories ∧ t.shape ≠ Table.forums) :
    t.Extends (t.insertIfAbsent given).1 where
  shape := t.insertIfAbsent_shape given
  rows := t.insertIfAbsent_prefix given
  category := fun same => absurd same other.1
  full := fun same => absurd same other.1
  redirect := fun same => absurd same other.2

theorem extends_category (same : t.shape = Table.categories) (free : t.isFull = false)
    {key : CategoryKey} (missing : t.find? (Sink.categoryRow key) = none) :
    t.Extends (t.insertIfAbsent (Sink.categoryRow key)).1 := by
  rw [insertIfAbsent_category same free]
  constructor
  · rfl
  · exact List.prefix_append _ _
  · intro _ other n found
    have differs : key ≠ other := by
      rintro rfl
      exact absurd (missing.symm.trans found) (by simp)
    rw [find?_other rfl (by rw [meets_categoryEntry, decide_eq_false differs]), found]
  · intro _ full
    exact absurd (free.symm.trans full) (by simp)
  · intro forums
    exact absurd (same.symm.trans forums) (by decide)

/-- A forum that is no redirect changes nothing for redirects; a redirect has a number above. -/
theorem extends_forum (same : t.shape = Table.forums) (f : Forum) (category : Int)
    (above : f.redirect = none ∨ ¬t.Topped) :
    t.Extends (t.insertIfAbsent (forumRow f category)).1 := by
  have notCategories : t.shape ≠ Table.categories := by
    rw [same]
    decide
  rcases t.insertIfAbsent_cases (forumRow f category) with ⟨-, still⟩ | ⟨-, added⟩
  · rw [still]
    exact .refl t
  · rw [added]
    constructor
    · rfl
    · exact List.prefix_append _ _
    · exact fun categories => absurd categories notCategories
    · exact fun categories => absurd categories notCategories
    · intro _ topped name target missing
      have plain : f.redirect = none := above.resolve_right (not_not_intro topped)
      have other : (t.complete (forumRow f category)).meets (redirectRow name target) = false := by
        rw [Bool.eq_false_iff, ne_eq, (complete_forumRow same f category).meets_iff, plain]
        simp
      rw [find?_other rfl other, missing]

end StoredTable
end BoardMigration.Store
