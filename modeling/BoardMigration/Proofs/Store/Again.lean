import BoardMigration.Proofs.Store.Alike

/-! Inserting again. A record that was inserted before is not inserted again, whatever has come since:
the answer is the one of the first time, except that nothing is written, and the tables stay as they
are. -/
namespace BoardMigration.Store

open Schema (Table)

/-- A redirect forum is found once it was added. -/
theorem StoredTable.find?_redirect {t : StoredTable} (same : t.shape = Table.forums) {f : Forum}
    {target : String} (redirect : f.redirect = some target) (category : Int)
    (missing : t.find? (redirectRow f.name target) = none) :
    (t.insertIfAbsent (forumRow (Sink.renumbered f t.above) category)).1.find?
      (redirectRow f.name target) ≠ none := by
  have row : t.IsForumRow (Sink.renumbered f t.above) t.above _ := complete_forumRow same _ category
  rw [insertIfAbsent_numbered (by rw [same]; rfl) row.id row.whole, if_neg t.above_free,
    find?_first rfl missing _ row.id]
  · simp
  · exact (row.meets_iff _ _).mpr ⟨rfl, redirect⟩

namespace Sink

variable {s t : Sink} {start : String}

/-- A category that is answered for is remembered. -/
theorem known?_resolveCategory {key : CategoryKey} {found : Int × Bool}
    (serves : s.Serves start) (answered : (s.resolveCategory key).1 = .ok found) :
    (s.resolveCategory key).2.known? key = some found.1 := by
  have resolved := serves.resolves key
  generalize s.resolveCategory key = outcome at resolved answered
  cases resolved with
  | known cached =>
    obtain rfl := Except.ok.inj answered
    exact cached
  | refused => cases answered
  | found =>
    obtain rfl := Except.ok.inj answered
    simp [known?, Sink.remember]
  | full => cases answered
  | created =>
    obtain rfl := Except.ok.inj answered
    simp [known?, Sink.remember]

/-- What is answered once a category was asked for before. -/
def settled (answer : Except Obstacle (Int × Bool)) : Except Obstacle (Int × Bool) :=
  answer.map fun found => (found.1, false)

theorem Regular.resolveCategory_again (regular : s.Regular start) (later : t.Regular start)
    {key : CategoryKey} (grows : Grows start (s.resolveCategory key).2 t) :
    (t.resolveCategory key).1 = settled (s.resolveCategory key).1 ∧
      Alike t (t.resolveCategory key).2 := by
  cases answer : (s.resolveCategory key).1 with
  | ok found =>
    have cached := known?_resolveCategory regular.toServes answer
    have between := (regular.resolveCategory key).regular
    have stored := grows.find_category between (between.recalls key found.1 cached)
    exact later.resolveCategory_found stored
  | error obstacle =>
    have resolved := regular.resolves key
    generalize s.resolveCategory key = outcome at resolved answer grows
    cases resolved with
    | known => cases answer
    | found => cases answer
    | created => cases answer
    | refused _ failed =>
      obtain rfl := Except.error.inj answer
      have still := grows.find_error regular.toServes (by decide) failed
      have fresh : t.known? key = none := later.known?_eq_none fun n => by simp [still]
      simp [Sink.resolveCategory, fresh, still, settled, Except.map, Alike.refl]
    | @full table _ there missing small full =>
      obtain rfl := Except.error.inj answer
      have categories : "categories" ∈ Table.names := by decide
      have shape := (regular.tables _ categories_mem.1 table there).1
      obtain ⟨more, here, grown⟩ := grows.tables _ categories table there
      obtain rfl := grown.full shape full
      have looked : t.find "categories" (categoryRow key) = .ok none := by
        rw [later.find categories, here]
        dsimp only
        rw [if_pos small, missing]
      have fresh : t.known? key = none := later.known?_eq_none fun n => by simp [looked]
      simp [Sink.resolveCategory, fresh, looked, later.table categories, here, full, settled, Except.map,
        Alike.refl]

/-- The number of a category is one of 64 bits. -/
theorem Regular.category_fits (regular : s.Regular start) {key : CategoryKey} {found : Int × Bool}
    (answered : (s.resolveCategory key).1 = .ok found) : Value.fits (.int found.1) = true := by
  have categories : "categories" ∈ Table.names := by decide
  have after := (regular.resolveCategory key).regular
  have stored := after.recalls key found.1 (known?_resolveCategory regular.toServes answered)
  rw [after.find categories] at stored
  cases there : (s.resolveCategory key).2.database.table? (start ++ "categories") with
  | none => simp [there] at stored
  | some table =>
    rw [there] at stored
    dsimp only at stored
    split at stored
    · have taken := StoredTable.mem_numbers_of_find? (Except.ok.inj stored)
      exact (Value.fits_int _).mpr
        (StoredTable.fits_of_mem_numbers (after.tables _ categories_mem.1 table there).2 taken)
    · cases stored

/-- What is answered once a row was given before. -/
def present {ε : Type} (answer : Except ε Bool) : Except ε Bool := answer.map fun _ => false

theorem Regular.write_again (regular : s.Regular start) (later : t.Regular start) {shape : Table}
    (member : shape ∈ Table.all) (keyed : shape.key ≠ []) {row : Row}
    (numbered : StoredTable.Numbered shape row) (grows : Grows start (s.write shape.name row).2 t) :
    (t.write shape.name row).1 = present (s.write shape.name row).1 ∧
      Alike t (t.write shape.name row).2 := by
  have known := Database.name_mem_names member
  rw [regular.write_eq known] at grows ⊢
  rw [later.write_eq known]
  cases there : s.database.table? (start ++ shape.name) with
  | none =>
    rw [there] at grows
    rw [grows.missing _ known there]
    exact ⟨rfl, .refl t⟩
  | some table =>
    simp only [there] at grows ⊢
    cases small : row.fits with
    | false =>
      rw [small] at grows
      obtain ⟨more, here, -⟩ := grows.tables _ known table there
      rw [here]
      exact ⟨rfl, .refl t⟩
    | true =>
      rw [small] at grows
      have same := (regular.tables shape member table there).1
      obtain ⟨more, here, grown⟩ := grows.tables _ known _ (Database.table?_added there row)
      have again : more.insertIfAbsent row = (more, false) :=
        StoredTable.insertIfAbsent_again (same ▸ numbered) (same ▸ keyed)
          (grown.shape.trans (table.insertIfAbsent_shape row)) grown.rows.subset
      simp only [here, again, if_true]
      exact ⟨rfl, .replace here⟩

/-- Whether all integers of a forum but its numbers have 64 bits. -/
def modest (f : Forum) : Bool := Row.fits (Record.forum { f with id := none }).row

theorem fits_renumbered (f : Forum) (n category : Int) :
    Row.fits (forumRow (renumbered f n) category) =
      (Value.fits (.int n) && modest f && Value.fits (.int category)) := by
  simp [forumRow, modest, Record.row, Row.fits, renumbered, Value.ofInt?, Value.fits, Bool.and_assoc]

/-- A redirect forum whose own integers are small is refused only for want of a number. -/
theorem topped_of_refused {table : StoredTable} (fits : ∀ row ∈ table.rows, Row.fits row = true)
    {f : Forum} {category : Int}
    (refused : Row.fits (forumRow (renumbered f table.above) category) = false)
    (own : modest f = true) (number : Value.fits (.int category) = true) : table.Topped := by
  rw [fits_renumbered, own, number, Bool.and_true, Bool.and_true] at refused
  by_contra untopped
  exact absurd ((StoredTable.above_fits_iff fits).mpr untopped) (by simp [refused])

/-- A redirect forum that was refused is refused when more rows have come. -/
theorem refused_again {table more : StoredTable} (fits : ∀ row ∈ table.rows, Row.fits row = true)
    (moreFits : ∀ row ∈ more.rows, Row.fits row = true) (grown : table.Extends more) {f : Forum}
    {category : Int} (refused : Row.fits (forumRow (renumbered f table.above) category) = false) :
    Row.fits (forumRow (renumbered f more.above) category) = false := by
  cases own : modest f with
  | false => simp [fits_renumbered, own]
  | true =>
    cases number : Value.fits (.int category) with
    | false => simp [fits_renumbered, number]
    | true =>
      have topped := grown.topped (topped_of_refused fits refused own number)
      have wide := mt (StoredTable.above_fits_iff moreFits).mp (not_not_intro topped)
      simp [fits_renumbered, Bool.eq_false_iff.mpr wide]

/-- A redirect forum is found again if it was stored. If it was not for want of a number, there is none
later; only if its own integers were too large, another of its name and target may have come. -/
theorem Regular.writeRedirect_again (regular : s.Regular start) (later : t.Regular start) {f : Forum}
    {target : String} (redirect : f.redirect = some target) (category : Int)
    (grows : Grows start (s.writeRedirect (forumRow f category)).2 t) :
    Alike t (t.writeRedirect (forumRow f category)).2 ∧
      (modest f = true → Value.fits (.int category) = true →
        (t.writeRedirect (forumRow f category)).1 = present (s.writeRedirect (forumRow f category)).1) := by
  have forums : "forums" ∈ Table.names := by decide
  rw [regular.writeRedirect_eq redirect] at grows ⊢
  rw [later.writeRedirect_eq redirect]
  cases there : s.database.table? (start ++ "forums") with
  | none =>
    rw [there] at grows
    rw [grows.missing _ forums there]
    exact ⟨.refl t, fun _ _ => rfl⟩
  | some table =>
    obtain ⟨shape, fits⟩ := regular.tables _ forums_mem.1 table there
    simp only [there] at grows ⊢
    by_cases found : table.find? (redirectRow f.name target) ≠ none
    · rw [if_pos found] at grows ⊢
      obtain ⟨more, here, grown⟩ := grows.tables _ forums table there
      rw [here]
      dsimp only
      rw [if_pos (StoredTable.find?_more grown.rows.subset found)]
      exact ⟨.refl t, fun _ _ => rfl⟩
    · rw [if_neg found] at grows ⊢
      have missing := not_not.mp found
      cases small : Row.fits (forumRow (renumbered f table.above) category) with
      | true =>
        simp only [small, if_true] at grows ⊢
        obtain ⟨more, here, grown⟩ := grows.tables _ forums _ (Database.table?_added there _)
        have stored := StoredTable.find?_redirect shape redirect category missing
        rw [here]
        dsimp only
        rw [if_pos (StoredTable.find?_more grown.rows.subset stored)]
        exact ⟨.refl t, fun _ _ => rfl⟩
      | false =>
        simp only [small] at grows ⊢
        obtain ⟨more, here, grown⟩ := grows.tables _ forums table there
        have moreFits := (later.tables _ forums_mem.1 more here).2
        have still := refused_again fits moreFits grown small
        rw [here]
        dsimp only
        split
        · next later =>
          refine ⟨.refl t, fun own number => ?_⟩
          have topped := topped_of_refused fits small own number
          exact absurd (grown.redirect shape topped _ _ missing) later
        · rw [still]
          exact ⟨.refl t, fun _ _ => rfl⟩

theorem Regular.place_again (regular : s.Regular start) (later : t.Regular start) {f : Forum}
    (lasting : f.id ≠ none ∨ f.redirect ≠ none) (category : Int)
    (grows : Grows start (s.place f category).2 t) :
    Alike t (t.place f category).2 ∧
      ((f.redirect ≠ none → modest f = true) → Value.fits (.int category) = true →
        (t.place f category).1 = present (s.place f category).1) := by
  cases redirect : f.redirect with
  | some target =>
    rw [place_redirect redirect] at grows ⊢
    rw [place_redirect redirect]
    obtain ⟨alike, answer⟩ := regular.writeRedirect_again later redirect category grows
    exact ⟨alike, fun own => answer (own (by simp))⟩
  | none =>
    obtain ⟨n, number⟩ := Option.ne_none_iff_exists'.mp (lasting.resolve_right (by simp [redirect]))
    rw [place_plain redirect] at grows ⊢
    rw [place_plain redirect]
    obtain ⟨answer, alike⟩ := regular.write_again later forums_mem.1 (by decide)
      (StoredTable.numbered_forumRow number category) grows
    exact ⟨alike, fun _ _ => answer⟩

theorem Regular.writeForum_again (regular : s.Regular start) (later : t.Regular start) {f : Forum}
    (lasting : f.id ≠ none ∨ f.redirect ≠ none) (grows : Grows start (s.writeForum f).2 t) :
    Alike t (t.writeForum f).2 ∧
      ((f.redirect ≠ none → modest f = true) → (t.writeForum f).1 = present (s.writeForum f).1) := by
  have advances := regular.resolveCategory (categoryOf f)
  cases answer : (s.resolveCategory (categoryOf f)).1 with
  | error obstacle =>
    rw [writeForum_error answer] at grows ⊢
    obtain ⟨same, alike⟩ := regular.resolveCategory_again later grows
    rw [answer] at same
    rw [writeForum_error same]
    exact ⟨alike, fun _ => rfl⟩
  | ok found =>
    rw [writeForum_ok answer] at grows ⊢
    have placed := (advances.regular.place f found.1).grows
    obtain ⟨same, alike⟩ := regular.resolveCategory_again later (placed.trans grows)
    rw [answer] at same
    rw [writeForum_ok same]
    have laterAdvances := later.resolveCategory (categoryOf f)
    obtain ⟨still, answered⟩ := advances.regular.place_again laterAdvances.regular lasting found.1
      (grows.alike alike)
    exact ⟨alike.trans still, fun own => answered own (regular.category_fits answer)⟩

/-- Records that are found again once they are stored: a forum has a number or a target. -/
def Lasting : Record → Prop
  | .forum f => f.id ≠ none ∨ f.redirect ≠ none
  | _ => True

/-- Records that are answered alike whenever they come: a redirect forum has no integer of its own that
is too large to be stored. -/
def Steady : Record → Prop
  | .forum f => f.redirect ≠ none → modest f = true
  | _ => True

theorem numbered_record {shape : Table} (member : shape ∈ numbered) {record : Record}
    (here : record.table = shape.name) : StoredTable.Numbered shape record.row := by
  obtain ⟨-, n, number⟩ := number_of_numbered member here
  intro column inside isKey
  exact ⟨n, by rw [(keyed_of_numbered member).2.2 column inside isKey]; exact number⟩

theorem Regular.writeRecord_again (regular : s.Regular start) (later : t.Regular start)
    {record : Record} (lasting : Lasting record) (grows : Grows start (s.writeRecord record).2 t) :
    Alike t (t.writeRecord record).2 ∧
      (Steady record → (t.writeRecord record).1 = present (s.writeRecord record).1) := by
  have plain {shape : Table} (member : shape ∈ numbered) (here : record.table = shape.name)
      (grows : Grows start (s.write shape.name record.row).2 t) :
      Alike t (t.write shape.name record.row).2 ∧ (Steady record →
        (t.write shape.name record.row).1 = present (s.write shape.name record.row).1) := by
    obtain ⟨listed, key, -⟩ := keyed_of_numbered member
    obtain ⟨answer, alike⟩ := regular.write_again later listed (by simp [key])
      (numbered_record member here) grows
    exact ⟨alike, fun _ => answer⟩
  cases record with
  | category c =>
    rw [writeRecord_category] at grows ⊢
    rw [writeRecord_category]
    obtain ⟨answer, alike⟩ := regular.resolveCategory_again later grows
    refine ⟨alike, fun _ => ?_⟩
    rw [answer]
    cases (s.resolveCategory (c.name, c.position)).1 <;> rfl
  | forum f => exact regular.writeForum_again later lasting grows
  | topic topic => exact @plain Table.topics (by decide) rfl grows
  | post p => exact @plain Table.posts (by decide) rfl grows
  | user u => exact @plain Table.users (by decide) rfl grows

/-- A record that was inserted is not inserted again. -/
theorem Regular.insert_again (regular : s.Regular start) (later : t.Regular start) {record : Record}
    (lasting : Lasting record) (grows : Grows start (s.insert record).2 t) :
    Alike t (t.insert record).2 ∧
      (Steady record → (t.insert record).1 = present (s.insert record).1) := by
  rw [regular.insert_eq] at grows
  obtain ⟨alike, answer⟩ := regular.writeRecord_again later lasting grows.of_noting
  rw [later.insert_eq]
  refine ⟨alike.noting t.pending _, fun steady => ?_⟩
  rw [later.insert_answer, regular.insert_answer, answer steady]
  cases (s.writeRecord record).1 <;> rfl

end Sink
end BoardMigration.Store
