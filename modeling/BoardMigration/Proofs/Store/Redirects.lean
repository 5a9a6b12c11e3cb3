import BoardMigration.Proofs.Migration.Board
import BoardMigration.Proofs.Related
import BoardMigration.Proofs.Store.Regular
import Mathlib.Data.List.Induction

/-! Redirect forums among real ones. A redirect is given the number above all that are stored, a real
forum brings its own, and neither takes the place of a forum that is there. So a real forum goes missing
if and only if a redirect that came before it was given its number. -/
namespace BoardMigration.Store

open Schema (Table)

/-- The number above all that forums have. -/
def aboveAll (held : List Forum) : Int := (held.filterMap (·.id)).max?.getD 0 + 1

/-- The forums held once another has come: the number of a real one must be free, the name and target of
a redirect must be new. -/
def lodge (held : List Forum) (f : Forum) : List Forum :=
  match f.redirect with
  | some target =>
    if ∃ g ∈ held, g.name = f.name ∧ g.redirect = some target then held
    else held ++ [Sink.renumbered f (aboveAll held)]
  | none => if ∃ g ∈ held, g.id = f.id then held else held ++ [f]

/-- The forums held in the end, each under its number. -/
def lodged (forums : List Forum) : List Forum := forums.foldl lodge []

theorem lodged_snoc (forums : List Forum) (f : Forum) :
    lodged (forums ++ [f]) = lodge (lodged forums) f := by simp [lodged]

/-- The first real forum of a number. -/
def firstReal? (forums : List Forum) (n : Int) : Option Forum :=
  forums.find? fun f => f.redirect.isNone && f.id == some n

theorem firstReal?_snoc (forums : List Forum) (f : Forum) (n : Int) :
    firstReal? (forums ++ [f]) n =
      (firstReal? forums n).or (if f.redirect.isNone && f.id == some n then some f else none) := by
  cases here : f.redirect.isNone && f.id == some n <;> simp [firstReal?, List.find?_append, here]

theorem firstReal?_mem {forums : List Forum} {n : Int} {f : Forum}
    (first : firstReal? forums n = some f) : f ∈ forums ∧ f.redirect = none ∧ f.id = some n := by
  have found := List.find?_some first
  simp only [Bool.and_eq_true, Option.isNone_iff_eq_none, beq_iff_eq] at found
  exact ⟨List.mem_of_find?_eq_some first, found⟩

theorem firstReal?_of_mem {forums : List Forum} {n : Int} {f : Forum} (member : f ∈ forums)
    (real : f.redirect = none) (number : f.id = some n) : ∃ first, firstReal? forums n = some first := by
  apply Option.isSome_iff_exists.mp
  rw [firstReal?, List.find?_isSome]
  exact ⟨f, member, by simp [real, number]⟩

/-- The number that a redirect is given is no other forum's. -/
theorem aboveAll_free {held : List Forum} {g : Forum} (member : g ∈ held) :
    g.id ≠ some (aboveAll held) := by
  intro same
  have below : aboveAll held < aboveAll held :=
    StoredTable.lt_max_succ (List.mem_filterMap.mpr ⟨g, member, same⟩)
  exact Int.lt_irrefl _ below

section

variable {held forums : List Forum} {f g : Forum}

theorem subset_lodge (held : List Forum) (f : Forum) : held ⊆ lodge held f := by
  unfold lodge
  split <;> split <;> simp

/-- A forum that comes is held, under the number it is given if it is a redirect, or one of its number
was held already, or one of its name and target. -/
theorem mem_lodge (member : g ∈ lodge held f) :
    g ∈ held ∨
      (f.redirect = none ∧ g = f ∧ ∀ other ∈ held, other.id ≠ f.id) ∨
      (f.redirect ≠ none ∧ g = Sink.renumbered f (aboveAll held)) := by
  unfold lodge at member
  split at member
  · next target redirect =>
    split at member
    · exact .inl member
    · rcases List.mem_append.mp member with old | new
      · exact .inl old
      · exact .inr (.inr ⟨by simp [redirect], List.mem_singleton.mp new⟩)
  · next real =>
    split at member
    · exact .inl member
    · next free =>
      rcases List.mem_append.mp member with old | new
      · exact .inl old
      · refine .inr (.inl ⟨real, List.mem_singleton.mp new, ?_⟩)
        exact fun other there same => free ⟨other, there, same⟩

theorem distinct_append (distinct : (held.map (·.id)).Nodup) (free : ∀ g ∈ held, g.id ≠ f.id) :
    ((held ++ [f]).map (·.id)).Nodup := by
  rw [List.map_append, List.map_singleton]
  refine List.nodup_append.mpr ⟨distinct, List.nodup_singleton _, ?_⟩
  rintro _ there _ given rfl
  obtain ⟨g, member, same⟩ := List.mem_map.mp there
  exact free g member (same.trans (List.mem_singleton.mp given))

theorem distinct_lodged (forums : List Forum) : ((lodged forums).map (·.id)).Nodup := by
  induction forums using List.reverseRecOn with
  | nil => exact List.nodup_nil
  | append_singleton rest f ih =>
    rw [lodged_snoc, lodge]
    split
    · split
      · exact ih
      · exact distinct_append ih fun g member => aboveAll_free member
    · split
      · exact ih
      · next free => exact distinct_append ih fun g member same => free ⟨g, member, same⟩

theorem redirect_lodged (member : f ∈ forums) {target : String} (redirect : f.redirect = some target) :
    ∃ g ∈ lodged forums, g.name = f.name ∧ g.redirect = some target := by
  induction forums using List.reverseRecOn with
  | nil => cases member
  | append_singleton rest last ih =>
    rw [lodged_snoc]
    rcases List.mem_append.mp member with early | here
    · obtain ⟨g, there, same⟩ := ih early
      exact ⟨g, subset_lodge _ _ there, same⟩
    · obtain rfl := List.mem_singleton.mp here
      rw [lodge, redirect]
      dsimp only
      split
      · next known => exact known
      · exact ⟨Sink.renumbered f (aboveAll (lodged rest)), by simp, rfl, redirect⟩

theorem number_lodged (member : f ∈ forums) (real : f.redirect = none) :
    ∃ g ∈ lodged forums, g.id = f.id := by
  induction forums using List.reverseRecOn with
  | nil => cases member
  | append_singleton rest last ih =>
    rw [lodged_snoc]
    rcases List.mem_append.mp member with early | here
    · obtain ⟨g, there, same⟩ := ih early
      exact ⟨g, subset_lodge _ _ there, same⟩
    · obtain rfl := List.mem_singleton.mp here
      rw [lodge, real]
      dsimp only
      split
      · next known => exact known
      · exact ⟨f, by simp, rfl⟩

/-- A real forum that is held was the first of its number. -/
theorem firstReal?_of_lodged (member : g ∈ lodged forums) (real : g.redirect = none) {n : Int}
    (number : g.id = some n) : firstReal? forums n = some g := by
  induction forums using List.reverseRecOn with
  | nil => cases member
  | append_singleton rest last ih =>
    rw [lodged_snoc] at member
    rw [firstReal?_snoc]
    rcases mem_lodge member with old | ⟨-, rfl, free⟩ | ⟨redirect, rfl⟩
    · rw [ih old, Option.some_or]
    · have none : firstReal? rest n = none := by
        rw [firstReal?, List.find?_eq_none]
        intro f early match_
        simp only [Bool.and_eq_true, Option.isNone_iff_eq_none, beq_iff_eq] at match_
        obtain ⟨other, there, same⟩ := number_lodged early match_.1
        exact free other there (same.trans (match_.2.trans number.symm))
      rw [none, Option.none_or, if_pos (by simp [real, number])]
    · exact absurd real redirect

theorem redirect_of_lodged (member : g ∈ lodged forums) (redirect : g.redirect ≠ none) :
    ∃ f ∈ forums, f.redirect ≠ none := by
  induction forums using List.reverseRecOn with
  | nil => cases member
  | append_singleton rest last ih =>
    rw [lodged_snoc] at member
    rcases mem_lodge member with old | ⟨-, rfl, -⟩ | ⟨given, -⟩
    · obtain ⟨f, early, same⟩ := ih old
      exact ⟨f, List.mem_append_left _ early, same⟩
    · exact ⟨g, by simp, redirect⟩
    · exact ⟨last, by simp, given⟩

/-- Redirects that come after all real forums are given no number of those. -/
theorem lodged_apart (ordered : forums.Pairwise fun f g => f.redirect ≠ none → g.redirect ≠ none)
    (member : g ∈ lodged forums) (redirect : g.redirect ≠ none) :
    ∀ f ∈ forums, f.redirect = none → f.id ≠ g.id := by
  induction forums using List.reverseRecOn with
  | nil => cases member
  | append_singleton rest last ih =>
    obtain ⟨before, -, later⟩ := List.pairwise_append.mp ordered
    intro f inside real
    rw [lodged_snoc] at member
    rcases mem_lodge member with old | ⟨plain, rfl, -⟩ | ⟨given, rfl⟩
    · rcases List.mem_append.mp inside with early | here
      · exact ih before old f early real
      · obtain ⟨first, early, kind⟩ := redirect_of_lodged old redirect
        exact absurd real (later first early f here kind)
    · exact absurd plain redirect
    · rcases List.mem_append.mp inside with early | here
      · obtain ⟨other, there, same⟩ := number_lodged early real
        rw [← same]
        exact aboveAll_free there
      · rw [List.mem_singleton.mp here] at real
        exact absurd real given

end

/-- Whether forums have rows: the first real one of each number under its number, and a redirect under
its name and target. -/
structure Sheltered (rows : List Row) (forums : List Forum) : Prop where
  real : ∀ n f, firstReal? forums n = some f → ∃ row ∈ rows, row.meets (Record.forum f).row = true
  redirect : ∀ f ∈ forums, ∀ target, f.redirect = some target →
    ∃ row ∈ rows, row.meets (redirectRow f.name target) = true

/-- The row of a forum that is held. -/
structure Houses (row : Row) (g : Forum) : Prop where
  meets : row.meets (Record.forum g).row = true
  numbered : g.id ≠ none

namespace Houses

variable {row : Row} {g : Forum}

theorem id_iff (houses : Houses row g) {n : Int} : row.value "id" = .int n ↔ g.id = some n := by
  have held := Row.meets_iff.mp houses.meets ("id", .ofInt? g.id) (by simp [Record.row])
  cases number : g.id <;> simp [held, number, Value.ofInt?]

theorem name (houses : Houses row g) : row.value "forum_name" = .text g.name :=
  Row.meets_iff.mp houses.meets ("forum_name", .text g.name) (by simp [Record.row])

theorem target (houses : Houses row g) : row.value "redirect_url" = .ofText? g.redirect :=
  Row.meets_iff.mp houses.meets ("redirect_url", .ofText? g.redirect) (by simp [Record.row])

theorem redirect_iff (houses : Houses row g) (name target : String) :
    row.meets (redirectRow name target) = true ↔ g.name = name ∧ g.redirect = some target :=
  meets_redirectRow houses.name houses.target name target

theorem numbers_eq {rows : List Row} {held : List Forum} (related : List.Forall₂ Houses rows held) :
    rows.filterMap StoredTable.number? = held.filterMap (·.id) := by
  induction related with
  | nil => rfl
  | cons here _ ih =>
    obtain ⟨n, number⟩ := Option.ne_none_iff_exists'.mp here.numbered
    have stored := StoredTable.number?_eq_some.mpr (here.id_iff.mpr number)
    rw [List.filterMap_cons_some stored, List.filterMap_cons_some number, ih]

end Houses

/-- If every forum that is held has its row, all forums have rows unless a redirect was given the number
of a real one. -/
theorem sheltered_iff_apart {rows : List Row} {forums : List Forum}
    (related : List.Forall₂ Houses rows (lodged forums)) :
    Sheltered rows forums ↔
      ∀ g ∈ lodged forums, g.redirect ≠ none → ∀ f ∈ forums, f.redirect = none → f.id ≠ g.id := by
  constructor
  · intro sheltered g member redirect f inside real same
    obtain ⟨row, -, houses⟩ := exists_of_mem_right related member
    obtain ⟨n, number⟩ := Option.ne_none_iff_exists'.mp houses.numbered
    obtain ⟨first, found⟩ := firstReal?_of_mem inside real (same.trans number)
    obtain ⟨-, plain, own⟩ := firstReal?_mem found
    obtain ⟨other, there, meets⟩ := sheltered.real n first found
    obtain ⟨h, held, kept⟩ := exists_of_mem_left related there
    -- the forum of the row that `first` has is the redirect, as both have the number
    have numbered := kept.id_iff.mp
      (Row.meets_iff.mp meets ("id", .int n) (by simp [Record.row, own, Value.ofInt?]))
    obtain rfl := List.inj_on_of_nodup_map (distinct_lodged forums) held member
      (numbered.trans number.symm)
    have aimed := Row.meets_iff.mp meets ("redirect_url", .null)
      (by simp [Record.row, plain, Value.ofText?])
    rw [kept.target] at aimed
    cases target : h.redirect with
    | none => exact redirect target
    | some target => simp [target, Value.ofText?] at aimed
  · intro apart
    constructor
    · intro n f first
      obtain ⟨inside, real, number⟩ := firstReal?_mem first
      obtain ⟨g, member, same⟩ := number_lodged inside real
      have plain : g.redirect = none := by
        by_contra redirect
        exact apart g member redirect f inside real same.symm
      have found := firstReal?_of_lodged member plain (same.trans number)
      obtain rfl := Option.some.inj (found.symm.trans first)
      obtain ⟨row, there, houses⟩ := exists_of_mem_right related member
      exact ⟨row, there, houses.meets⟩
    · intro f inside target redirect
      obtain ⟨g, member, known⟩ := redirect_lodged inside redirect
      obtain ⟨row, there, houses⟩ := exists_of_mem_right related member
      exact ⟨row, there, (houses.redirect_iff f.name target).mpr known⟩

/-- A table of forums with the forums it holds. -/
structure StoredTable.Lodges (t : StoredTable) (held : List Forum) : Prop where
  shape : t.shape = Table.forums
  rows : List.Forall₂ Houses t.rows held

namespace StoredTable.Lodges

variable {t : StoredTable} {held : List Forum} {f : Forum}

theorem above (lodges : t.Lodges held) : t.above = aboveAll held := by
  rw [StoredTable.above, StoredTable.highest?, StoredTable.numbers, Houses.numbers_eq lodges.rows,
    aboveAll]

theorem find?_ne_none_iff (lodges : t.Lodges held) (name target : String) :
    t.find? (redirectRow name target) ≠ none ↔ ∃ g ∈ held, g.name = name ∧ g.redirect = some target := by
  simp only [ne_eq, find?_eq_none, not_forall]
  constructor
  · rintro ⟨row, member, meets, -⟩
    obtain ⟨g, there, houses⟩ := exists_of_mem_left lodges.rows member
    exact ⟨g, there, (houses.redirect_iff name target).mp meets⟩
  · rintro ⟨g, there, known⟩
    obtain ⟨row, member, houses⟩ := exists_of_mem_right lodges.rows there
    obtain ⟨n, number⟩ := Option.ne_none_iff_exists'.mp houses.numbered
    refine ⟨row, member, (houses.redirect_iff name target).mpr known, ?_⟩
    simp [number?_eq_some.mpr (houses.id_iff.mpr number)]

theorem houses_complete (lodges : t.Lodges held) (numbered : f.id ≠ none) (category : Int) :
    Houses (t.complete (forumRow f category)) f := by
  refine ⟨?_, numbered⟩
  obtain ⟨n, number⟩ := Option.ne_none_iff_exists'.mp numbered
  rw [Row.meets_iff]
  simp [StoredTable.complete, lodges.shape, Table.forums, Schema.Column.free, Schema.Column.needed,
    forumRow, Record.row, number, Row.value, Value.ofInt?]

/-- A forum of a number is added unless the number is taken. -/
theorem insertIfAbsent (lodges : t.Lodges held) (numbered : f.id ≠ none) (category : Int) :
    (t.insertIfAbsent (forumRow f category)).1.Lodges
      (if ∃ g ∈ held, g.id = f.id then held else held ++ [f]) := by
  obtain ⟨n, number⟩ := Option.ne_none_iff_exists'.mp numbered
  have row := complete_forumRow lodges.shape f category
  rw [number, Option.getD_some] at row
  have taken : n ∈ t.numbers ↔ ∃ g ∈ held, g.id = f.id := by
    rw [StoredTable.numbers, Houses.numbers_eq lodges.rows, List.mem_filterMap, number]
  rw [insertIfAbsent_numbered (by rw [lodges.shape]; rfl) row.id row.whole]
  by_cases there : n ∈ t.numbers
  · rw [if_pos there, if_pos (taken.mp there)]
    exact lodges
  · rw [if_neg there, if_neg (mt taken.mpr there)]
    have houses := lodges.houses_complete numbered category
    exact ⟨lodges.shape, List.rel_append lodges.rows (.cons houses .nil)⟩

end StoredTable.Lodges

namespace Sink

variable {s : Sink} {start : String} {t : StoredTable} {held : List Forum}

/-- The forums that are not refused. -/
def admitted (s : Sink) : List Forum → List Forum
  | [] => []
  | f :: rest =>
    let (answer, next) := s.insert (.forum f)
    if answer.isOk then f :: next.admitted rest else next.admitted rest

theorem admitted_sublist (s : Sink) (forums : List Forum) : (s.admitted forums).Sublist forums := by
  induction forums generalizing s with
  | nil => exact .slnil
  | cons f rest ih =>
    unfold admitted
    dsimp only
    split
    · exact (ih _).cons_cons f
    · exact (ih _).cons f

/-- A redirect is held, unless it is refused. -/
theorem Serves.writeRedirect_lodges (serves : s.Serves start)
    (there : s.database.table? (start ++ "forums") = some t) (lodges : t.Lodges held) {f : Forum}
    {target : String} (redirect : f.redirect = some target) (category : Int) :
    ∃ more,
      (s.writeRedirect (forumRow f category)).2.database.table? (start ++ "forums") = some more ∧
      more.Lodges (if (s.writeRedirect (forumRow f category)).1.isOk then lodge held f else held) := by
  have known := lodges.find?_ne_none_iff f.name target
  have written := serves.writeRedirect_eq redirect category
  rw [there] at written
  by_cases found : t.find? (redirectRow f.name target) ≠ none
  · have same : lodge held f = held := by
      rw [lodge, redirect]
      exact if_pos (known.mp found)
    rw [written.trans (if_pos found), same, ite_self]
    exact ⟨t, there, lodges⟩
  · have number : lodge held f = held ++ [renumbered f (aboveAll held)] := by
      rw [lodge, redirect]
      exact if_neg (mt known.mpr found)
    rw [written.trans (if_neg found), number, lodges.above]
    dsimp only
    split
    · have free : ¬∃ g ∈ held, g.id = (renumbered f (aboveAll held)).id := fun ⟨g, member, same⟩ =>
        aboveAll_free member same
      have given : (renumbered f (aboveAll held)).id ≠ none := by simp [renumbered]
      have added := lodges.insertIfAbsent given category
      rw [if_neg free] at added
      exact ⟨_, Database.table?_added there _, added⟩
    · exact ⟨t, there, lodges⟩

/-- A forum whose category has a number is held, unless it is refused. -/
theorem Serves.place_lodges (serves : s.Serves start)
    (there : s.database.table? (start ++ "forums") = some t) (lodges : t.Lodges held) {f : Forum}
    (numbered : f.redirect = none → f.id ≠ none) (category : Int) :
    ∃ more, (s.place f category).2.database.table? (start ++ "forums") = some more ∧
      more.Lodges (if (s.place f category).1.isOk then lodge held f else held) := by
  cases redirect : f.redirect with
  | some target =>
    rw [place_redirect redirect]
    exact serves.writeRedirect_lodges there lodges redirect category
  | none =>
    have number : lodge held f = if ∃ g ∈ held, g.id = f.id then held else held ++ [f] := by
      rw [lodge, redirect]
    rw [place_plain redirect, forums_mem.2, serves.write_eq (by decide), there, number]
    dsimp only
    split
    · exact ⟨_, Database.table?_added there _, lodges.insertIfAbsent (numbered redirect) category⟩
    · exact ⟨t, there, lodges⟩

theorem Serves.insert_lodges (serves : s.Serves start)
    (there : s.database.table? (start ++ "forums") = some t) (lodges : t.Lodges held) {f : Forum}
    (numbered : f.redirect = none → f.id ≠ none) :
    ∃ more, (s.insert (.forum f)).2.database.table? (start ++ "forums") = some more ∧
      more.Lodges (if (s.insert (.forum f)).1.isOk then lodge held f else held) := by
  have keeps := serves.keeps_resolveCategory (categoryOf f)
  have still := (keeps.others "forums" (by decide) (by decide)).trans there
  have answer : (s.insert (.forum f)).1.isOk = (s.writeForum f).1.isOk := by
    rw [serves.insert_answer]
    cases written : (s.writeForum f).1 <;>
      simp [writeRecord, written, Except.mapError, Except.isOk, Except.toBool]
  rw [serves.insert_eq, answer]
  change ∃ more, (s.writeForum f).2.database.table? (start ++ "forums") = some more ∧ _
  cases resolved : (s.resolveCategory (categoryOf f)).1 with
  | error obstacle =>
    rw [writeForum_error resolved]
    exact ⟨t, still, lodges⟩
  | ok found =>
    rw [writeForum_ok resolved]
    exact (serves.keeps keeps).place_lodges still lodges numbered found.1

/-- Forums that are inserted one after another are held as if they were numbered one after another. -/
theorem Serves.insertAll_lodges (serves : s.Serves start)
    (there : s.database.table? (start ++ "forums") = some t) (lodges : t.Lodges held)
    {forums : List Forum} (numbered : ∀ f ∈ forums, f.redirect = none → f.id ≠ none) :
    ∃ more, (target.insertAll s (forums.map .forum)).database.table? (start ++ "forums") = some more ∧
      more.Lodges ((s.admitted forums).foldl lodge held) := by
  induction forums generalizing s t held with
  | nil => exact ⟨t, there, lodges⟩
  | cons f rest ih =>
    rw [List.forall_mem_cons] at numbered
    obtain ⟨between, here, held⟩ := serves.insert_lodges there lodges numbered.1
    have last := ih (serves.keeps (serves.keeps_insert (.forum f))) here held numbered.2
    unfold admitted
    dsimp only
    split
    · next taken =>
      rw [if_pos taken] at last
      exact last
    · next refused =>
      rw [if_neg refused] at last
      exact last

end Sink

variable {db : Database} {tablePrefix : String}

theorem Creatable.houses (creatable : Creatable db tablePrefix) {forums : List Forum}
    (numbered : ∀ f ∈ forums, f.redirect = none → f.id ≠ none) :
    let board := Sink.connect (created db tablePrefix) tablePrefix
    List.Forall₂ Houses
      ((target.insertAll board (forums.map .forum)).database.rowsOf tablePrefix "forums")
      (lodged (board.admitted forums)) := by
  obtain ⟨start, serves, tables⟩ := creatable.tables
  have there := tables Table.forums Sink.forums_mem.1
  rw [Sink.forums_mem.2] at there
  have lodges : (Database.seeded (Sink.connect {} tablePrefix).fullName Table.forums).Lodges [] := by
    refine ⟨(Database.seeded_shape _ Table.forums).1, ?_⟩
    have empty : firstRows tablePrefix Table.forums = [] := rfl
    change List.Forall₂ Houses (firstRows tablePrefix Table.forums) []
    rw [empty]
    exact .nil
  generalize Database.seeded (Sink.connect {} tablePrefix).fullName Table.forums = blank at there lodges
  generalize created db tablePrefix = made at serves there
  intro board
  obtain ⟨more, here, held⟩ := serves.insertAll_lodges there lodges numbered
  generalize (target.insertAll board (forums.map .forum)).database = after at here ⊢
  have last := serves.connect after
  have same : (Sink.connect after tablePrefix).database.table? (start ++ "forums") = some more := here
  rw [Database.rowsOf, last.table (by decide), same]
  exact held.rows

/-- On a new board all forums that are not refused have rows if and only if no redirect is given the
number of a real one. -/
theorem Creatable.sheltered_iff (creatable : Creatable db tablePrefix) (forums : List Forum)
    (numbered : ∀ f ∈ forums, f.redirect = none → f.id ≠ none) :
    let board := Sink.connect (created db tablePrefix) tablePrefix
    let rows := (target.insertAll board (forums.map .forum)).database.rowsOf tablePrefix "forums"
    let admitted := board.admitted forums
    Sheltered rows admitted ↔
      ∀ g ∈ lodged admitted, g.redirect ≠ none → ∀ f ∈ admitted, f.redirect = none → f.id ≠ g.id :=
  sheltered_iff_apart (creatable.houses numbered)

/-- The redirect is given the number 4, as the highest before it is 3. -/
theorem Creatable.sheltered_iff_single :
    let forums : List Forum := [
      { id := some 3, name := "News", categoryName := "General" },
      { name := "Wiki", redirect := some "http://wiki.example.com/", categoryName := "General" }]
    let board := Sink.connect (created {} "old_") "old_"
    let rows := (target.insertAll board (forums.map .forum)).database.rowsOf "old_" "forums"
    let admitted := board.admitted forums
    Creatable {} "old_" ∧ (∀ f ∈ forums, f.redirect = none → f.id ≠ none) ∧
    (Sheltered rows admitted ↔
      ∀ g ∈ lodged admitted, g.redirect ≠ none → ∀ f ∈ admitted, f.redirect = none → f.id ≠ g.id) := by
  intro forums board rows admitted
  have creatable : Creatable {} "old_" := creatable_plain (by decide +kernel) (by decide +kernel)
  have numbered : ∀ f ∈ forums, f.redirect = none → f.id ≠ none := by decide
  exact ⟨creatable, numbered, creatable.sheltered_iff forums numbered⟩

/-- The real forum 2 comes after the redirect that was given this number, as from a second page. -/
theorem sheltered_displaced :
    let forums : List Forum := [
      { id := some 1, name := "News", categoryName := "General" },
      { name := "Wiki", redirect := some "http://wiki.example.com/", categoryName := "General" },
      { id := some 2, name := "Talk", topics := 3, posts := 7, categoryName := "General" }]
    let board := Sink.connect (created {} "") ""
    ¬Sheltered ((target.insertAll board (forums.map .forum)).database.rowsOf "" "forums")
      (board.admitted forums) := by
  intro forums board sheltered
  have creatable : Creatable {} "" := creatable_plain (by decide +kernel) (by decide +kernel)
  have all : board.admitted forums = forums := by decide +kernel
  have apart := (sheltered_iff_apart (creatable.houses (by decide))).mp sheltered
  change ∀ g ∈ lodged (board.admitted forums), _ at apart
  rw [all] at apart
  exact absurd apart (by decide)

/-- Redirects that all come after the real forums leave each its row, as on a single page. -/
theorem Creatable.sheltered_of_ordered (creatable : Creatable db tablePrefix) {forums : List Forum}
    (numbered : ∀ f ∈ forums, f.redirect = none → f.id ≠ none)
    (ordered : forums.Pairwise fun f g => f.redirect ≠ none → g.redirect ≠ none) :
    let board := Sink.connect (created db tablePrefix) tablePrefix
    Sheltered ((target.insertAll board (forums.map .forum)).database.rowsOf tablePrefix "forums")
      (board.admitted forums) := by
  intro board
  refine (sheltered_iff_apart (creatable.houses numbered)).mpr fun g member redirect => ?_
  exact lodged_apart (ordered.sublist (board.admitted_sublist forums)) member redirect

end BoardMigration.Store
