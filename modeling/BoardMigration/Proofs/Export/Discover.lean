import BoardMigration.Proofs.Export.Resolve

/-! The pages found below a root: every file there that is none of the excluded ones, and every link to a file, each
once and the largest first. -/
namespace BoardMigration.Export

/-- The names a page does not have. -/
def Excluded (name : String) : Prop :=
  (∃ mark ∈ [".", "__", "~"], mark.toList <+: name.toList) ∨
    (∃ ending ∈ [".tmp", ".temp", ".bak", ".backup"], ending.toList <:+ name.toList) ∨ name = "Thumbs.db"

theorem isExcluded_iff {name : String} : isExcluded name = true ↔ Excluded name := by
  simp only [isExcluded, Excluded, Bool.or_eq_true, List.any_eq_true, List.isPrefixOf_iff_prefix,
    List.isSuffixOf_iff_suffix, beq_iff_eq, or_assoc]

def Found.IsFile : Found → Prop
  | .directory _ => False
  | .page _ => True
  | .database _ _ => True

/-- What a path leads to from where paths start. -/
def FileSystem.Leads (fs : FileSystem) (path : Path) (found : Found) : Prop :=
  Export.Leads fs.root maxLinks [("", fs.root)] (if path.absolute then path.parts else fs.home ++ path.parts) found

/-- Whether an entry is a file, or a link at the path that leads to one. -/
def Entry.IsFile (fs : FileSystem) (path : Path) : Entry → Prop
  | .file _ => True
  | .database _ => True
  | .directory _ => False
  | .link _ => ∃ found, fs.Leads path found ∧ found.IsFile

section Files

variable {fs : FileSystem} {root path : Path} {entries : Listing} {names : List String} {entry : Entry}
  {file : PageFile}

theorem FileSystem.find?_iff {found : Found} : fs.find? path = some found ↔ fs.Leads path found := resolve_iff

theorem FileSystem.path_of_file? (present : fs.file? path = some file) : file.path = path := by
  unfold FileSystem.file? at present
  split at present
  · rw [← Option.some.inj present]
  · rw [← Option.some.inj present]
  · cases present

theorem FileSystem.file?_isSome :
    (fs.file? path).isSome = true ↔ ∃ found, fs.find? path = some found ∧ found.IsFile := by
  unfold FileSystem.file?
  cases fs.find? path with
  | none => simp
  | some found => cases found <;> simp [Found.IsFile]

/-- The directory a listing is of: all of it is sound, and names behind its path are taken from there. -/
theorem FileSystem.listing?_some (sound : soundBelow fs.root = true) (lists : fs.listing? root = some entries) :
    ∃ within left, within.Sound ∧ within.listing = entries ∧
      ∀ names, fs.find? (root.under names) = resolve fs.root left within names := by
  unfold FileSystem.listing? at lists
  split at lists
  case h_2 => cases lists
  case h_1 within reached =>
    have leads := resolve_iff.mp reached
    obtain ⟨left, goes⟩ := leads.resolve_append
    refine ⟨within, left, leads.sound sound (Chain.sound_root sound), Option.some.inj lists, fun names => ?_⟩
    rw [← goes]
    unfold FileSystem.find? Path.under
    split <;> simp

theorem Below.isSome_file? (below : Below entries names entry) (sound : soundBelow fs.root = true)
    (lists : fs.listing? root = some entries) :
    (fs.file? (root.under names)).isSome = true ↔ entry.IsFile fs (root.under names) := by
  rw [FileSystem.file?_isSome]
  obtain ⟨within, left, safe, here, goes⟩ := FileSystem.listing?_some sound lists
  obtain ⟨inner, name, listed, named, same⟩ := below.resolve safe here
  rw [← goes] at same
  cases entry with
  | file => simp [same, resolve_page named listed, Found.IsFile, Entry.IsFile]
  | database => simp [same, resolve_database named listed, Found.IsFile, Entry.IsFile]
  | directory => simp [same, resolve_down named listed, resolve_nil, Found.IsFile, Entry.IsFile]
  | link => simp only [FileSystem.find?_iff, Entry.IsFile]

end Files

theorem PageFile.le_total (a b : PageFile) : (a.le b || b.le a) = true := by
  simp only [PageFile.le, Bool.or_eq_true, Bool.and_eq_true, decide_eq_true_eq, beq_iff_eq]
  rcases Nat.lt_trichotomy a.size b.size with smaller | same | larger
  · exact .inr (.inl smaller)
  · rcases String.le_total a.path.toString b.path.toString with first | second
    · exact .inl (.inr ⟨same, first⟩)
    · exact .inr (.inr ⟨same.symm, second⟩)
  · exact .inl (.inl larger)

theorem PageFile.le_trans (a b c : PageFile) (ab : a.le b = true) (bc : b.le c = true) : a.le c = true := by
  simp only [PageFile.le, Bool.or_eq_true, Bool.and_eq_true, decide_eq_true_eq, beq_iff_eq] at ab bc ⊢
  rcases ab with ab | ⟨ab, first⟩
  · omega
  · rcases bc with bc | ⟨bc, second⟩
    · omega
    · exact .inr ⟨ab.trans bc, String.le_trans first second⟩

theorem PageFile.size_of_le {a b : PageFile} (ordered : a.le b = true) : b.size ≤ a.size := by
  simp only [PageFile.le, Bool.or_eq_true, Bool.and_eq_true, decide_eq_true_eq, beq_iff_eq] at ordered
  omega

section Discover

variable {fs : FileSystem} {root : Path} {entries : Listing}

theorem paths_of_files (paths : List Path) :
    (paths.filterMap fs.file?).map (·.path) = paths.filter fun path => (fs.file? path).isSome := by
  induction paths with
  | nil => rfl
  | cons path paths ih =>
    cases present : fs.file? path with
    | none => simp [present, ih]
    | some file => simp [present, ih, FileSystem.path_of_file? present]

/-- Where pages are looked for. -/
def candidates (root : Path) (entries : Listing) : List Path := (pathsBelow root entries).filter (!isExcluded ·.name)

theorem mem_candidates {path : Path} : path ∈ candidates root entries ↔
    ∃ names entry, Below entries names entry ∧ path = root.under names ∧ ¬Excluded path.name := by
  rw [candidates, List.mem_filter, mem_pathsBelow, Bool.not_eq_true', ← Bool.not_eq_true, isExcluded_iff]
  constructor
  · rintro ⟨⟨names, entry, below, same⟩, kept⟩
    exact ⟨names, entry, below, same, kept⟩
  · rintro ⟨names, entry, below, same, kept⟩
    exact ⟨⟨names, entry, below, same⟩, kept⟩

theorem discover_of_listing (lists : fs.listing? root = some entries) :
    discover fs root = .ok (((candidates root entries).filterMap fs.file?).mergeSort PageFile.le) := by
  simp only [discover, lists, candidates]

/-- A directory with links to a file, to a directory, to nothing and to itself. -/
def linked : Listing :=
  [("topic.html", .file [60, 62]), ("again.html", .link "topic.html"), ("gone.html", .link "nowhere"),
    ("round.html", .link "round.html"), ("pages", .directory [("more.html", .file [60]), ("more.html.bak", .file [])]),
    ("shortcut", .link "pages")]

def linkedTree : FileSystem := { root := [("export", .directory linked)] }

end Discover

end BoardMigration.Export
