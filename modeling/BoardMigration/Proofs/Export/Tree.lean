import BoardMigration.Export.Discover
import BoardMigration.Proofs.Related
import Mathlib.Data.List.Nodup

/-! Paths in a directory tree. What a path leads to is said by a relation that takes its parts one by one, and the
paths below a directory are those that lead down from it through directories only, each of them once. -/
namespace BoardMigration.Export

/-- What a file or directory can be named. -/
def isName (name : String) : Bool := name != "" && name != "." && name != ".." && !name.toList.contains '/'

mutual

def Entry.isSound : Entry → Bool
  | .directory entries => soundBelow entries
  | _ => true

/-- Whether names are names and none stands twice in a directory, in this one and all below. -/
def soundBelow : List (String × Entry) → Bool
  | [] => true
  | (name, entry) :: rest => isName name && !rest.any (·.1 == name) && entry.isSound && soundBelow rest

end

/-- Induction on the entries of a directory and, for each that is a directory, on its own. -/
theorem Listing.induction {motive : Listing → Prop} (nil : motive [])
    (directory : ∀ name inner rest, motive inner → motive rest → motive ((name, .directory inner) :: rest))
    (leaf : ∀ name entry rest, (∀ inner, entry ≠ .directory inner) → motive rest → motive ((name, entry) :: rest)) :
    ∀ listing, motive listing
  | [] => nil
  | (name, .directory inner) :: rest =>
    directory name inner rest (Listing.induction nil directory leaf inner) (Listing.induction nil directory leaf rest)
  | (name, .file bytes) :: rest => leaf name _ rest (by simp) (Listing.induction nil directory leaf rest)
  | (name, .database db) :: rest => leaf name _ rest (by simp) (Listing.induction nil directory leaf rest)
  | (name, .link target) :: rest => leaf name _ rest (by simp) (Listing.induction nil directory leaf rest)

section Sound

variable {name : String} {entry : Entry} {listing rest : Listing}

theorem soundBelow_cons : soundBelow ((name, entry) :: rest) = true ↔
    isName name = true ∧ (∀ pair ∈ rest, pair.1 ≠ name) ∧ entry.isSound = true ∧ soundBelow rest = true := by
  simp [soundBelow, and_assoc]

theorem soundBelow_of_mem (sound : soundBelow listing = true) (member : (name, entry) ∈ listing) :
    isName name = true ∧ entry.isSound = true := by
  induction listing with
  | nil => cases member
  | cons pair rest ih =>
    obtain ⟨named, -, inside, others⟩ := soundBelow_cons.mp sound
    rcases List.mem_cons.mp member with rfl | later
    · exact ⟨named, inside⟩
    · exact ih others later

theorem lookup_of_mem (sound : soundBelow listing = true) (member : (name, entry) ∈ listing) :
    listing.lookup name = some entry := by
  induction listing with
  | nil => cases member
  | cons pair rest ih =>
    obtain ⟨-, other, -, others⟩ := soundBelow_cons.mp sound
    rcases List.mem_cons.mp member with rfl | later
    · exact List.lookup_cons_self
    · have apart : (name == pair.1) = false := by simpa using other _ later
      rw [List.lookup_cons, apart]
      exact ih others later

theorem ne_dots_of_isName (named : isName name = true) : name ≠ ".." := by
  rintro rfl
  exact absurd named (by decide)

end Sound

/-- A way down through directories only, and the entry it ends at. -/
inductive Below : Listing → List String → Entry → Prop where
  | here {listing : Listing} {name : String} {entry : Entry} (member : (name, entry) ∈ listing) :
    Below listing [name] entry
  | inside {listing inner : Listing} {name : String} {names : List String} {entry : Entry}
    (member : (name, .directory inner) ∈ listing) (further : Below inner names entry) :
    Below listing (name :: names) entry

/-- The path of names further down. -/
def Path.under (path : Path) (names : List String) : Path := { path with parts := path.parts ++ names }

theorem Path.child_under (path : Path) (name : String) (names : List String) :
    (path.child name).under names = path.under (name :: names) := by
  simp [Path.child, Path.under]

theorem Path.under_inj {path : Path} {names others : List String} (same : path.under names = path.under others) :
    names = others := by
  simpa [Path.under] using same

section Below

variable {name : String} {names : List String} {entry last : Entry} {listing inner rest : Listing} {base path : Path}

theorem Below.names_eq (below : Below listing names last) :
    ∃ first further, names = first :: further ∧ ∃ entry, (first, entry) ∈ listing := by
  cases below with
  | here member => exact ⟨_, _, rfl, _, member⟩
  | inside member _ => exact ⟨_, _, rfl, _, member⟩

theorem below_cons_iff : Below ((name, entry) :: rest) names last ↔ names = [name] ∧ last = entry ∨
    (∃ inner further, entry = .directory inner ∧ names = name :: further ∧ Below inner further last) ∨
      Below rest names last := by
  constructor
  · rintro (⟨member⟩ | ⟨member, further⟩)
    · rcases List.mem_cons.mp member with same | later
      · obtain ⟨rfl, rfl⟩ := Prod.mk.inj same
        exact .inl ⟨rfl, rfl⟩
      · exact .inr (.inr (.here later))
    · rcases List.mem_cons.mp member with same | later
      · obtain ⟨rfl, rfl⟩ := Prod.mk.inj same
        exact .inr (.inl ⟨_, _, rfl, rfl, further⟩)
      · exact .inr (.inr (.inside later further))
  · rintro (⟨rfl, rfl⟩ | ⟨inner, further, rfl, rfl, below⟩ | below)
    · exact .here List.mem_cons_self
    · exact .inside List.mem_cons_self below
    · cases below with
      | here member => exact .here (List.mem_cons_of_mem _ member)
      | inside member further => exact .inside (List.mem_cons_of_mem _ member) further

theorem pathsBelow_directory : pathsBelow base ((name, .directory inner) :: rest) =
    base.child name :: (pathsBelow (base.child name) inner ++ pathsBelow base rest) := by
  simp [pathsBelow, Entry.pathsFrom]

theorem pathsBelow_leaf (leaf : ∀ inner, entry ≠ .directory inner) :
    pathsBelow base ((name, entry) :: rest) = base.child name :: pathsBelow base rest := by
  cases entry with
  | directory inner => exact absurd rfl (leaf inner)
  | file => simp [pathsBelow, Entry.pathsFrom]
  | database => simp [pathsBelow, Entry.pathsFrom]
  | link => simp [pathsBelow, Entry.pathsFrom]

/-- The walk meets what lies below and nothing else. -/
theorem mem_pathsBelow : path ∈ pathsBelow base listing ↔
    ∃ names last, Below listing names last ∧ path = base.under names := by
  induction listing using Listing.induction generalizing base with
  | nil =>
    simp only [pathsBelow, List.not_mem_nil, false_iff]
    rintro ⟨_, _, below, -⟩
    obtain ⟨_, _, -, _, member⟩ := below.names_eq
    cases member
  | directory name inner rest down others =>
    rw [pathsBelow_directory, List.mem_cons, List.mem_append, down, others]
    constructor
    · rintro (rfl | ⟨names, last, below, rfl⟩ | ⟨names, last, below, rfl⟩)
      · exact ⟨[name], _, .here List.mem_cons_self, rfl⟩
      · exact ⟨name :: names, last, .inside List.mem_cons_self below, base.child_under name names⟩
      · exact ⟨names, last, below_cons_iff.mpr (.inr (.inr below)), rfl⟩
    · rintro ⟨names, last, below, rfl⟩
      rcases below_cons_iff.mp below with ⟨rfl, -⟩ | ⟨_, further, same, rfl, inside⟩ | later
      · exact .inl rfl
      · obtain rfl := Entry.directory.inj same
        exact .inr (.inl ⟨further, last, inside, (base.child_under name further).symm⟩)
      · exact .inr (.inr ⟨names, last, later, rfl⟩)
  | leaf name entry rest leaf others =>
    rw [pathsBelow_leaf leaf, List.mem_cons, others]
    constructor
    · rintro (rfl | ⟨names, last, below, rfl⟩)
      · exact ⟨[name], _, .here List.mem_cons_self, rfl⟩
      · exact ⟨names, last, below_cons_iff.mpr (.inr (.inr below)), rfl⟩
    · rintro ⟨names, last, below, rfl⟩
      rcases below_cons_iff.mp below with ⟨rfl, -⟩ | ⟨inner, _, same, -⟩ | later
      · exact .inl rfl
      · exact absurd same (leaf inner)
      · exact .inr ⟨names, last, later, rfl⟩

/-- A path below other entries does not begin with this one's name. -/
theorem ne_of_mem_pathsBelow (apart : ∀ pair ∈ rest, pair.1 ≠ name) (member : path ∈ pathsBelow base rest)
    (names : List String) : path ≠ base.under (name :: names) := by
  obtain ⟨others, last, below, rfl⟩ := mem_pathsBelow.mp member
  obtain ⟨first, further, rfl, entry, listed⟩ := below.names_eq
  intro same
  exact apart _ listed (List.cons.inj (Path.under_inj same)).1

theorem nodup_pathsBelow (sound : soundBelow listing = true) : (pathsBelow base listing).Nodup := by
  induction listing using Listing.induction generalizing base with
  | nil => exact List.nodup_nil
  | directory name inner rest down others =>
    obtain ⟨-, apart, inside, later⟩ := soundBelow_cons.mp sound
    rw [pathsBelow_directory, List.nodup_cons, List.mem_append, List.nodup_append]
    refine ⟨?_, down inside, others later, ?_⟩
    · rintro (member | member)
      · obtain ⟨names, last, below, same⟩ := mem_pathsBelow.mp member
        obtain ⟨first, further, rfl, -⟩ := below.names_eq
        rw [Path.child_under] at same
        exact absurd (Path.under_inj same) (by simp)
      · exact ne_of_mem_pathsBelow apart member [] rfl
    · rintro path member _ member' rfl
      obtain ⟨names, last, below, same⟩ := mem_pathsBelow.mp member
      exact ne_of_mem_pathsBelow apart member' names (same.trans (base.child_under name names))
  | leaf name entry rest leaf others =>
    obtain ⟨-, apart, -, later⟩ := soundBelow_cons.mp sound
    rw [pathsBelow_leaf leaf, List.nodup_cons]
    exact ⟨fun member => ne_of_mem_pathsBelow apart member [] rfl, others later⟩

end Below

end BoardMigration.Export
