import BoardMigration.Export.Tree

/-! Finding the files of an export: every file below a directory, the largest first, so that long pages
are not left for the end. Links to files count as files; links to directories are not entered. -/
namespace BoardMigration.Export

/-- Hidden files, leftovers of editors and browsers, and thumbnails are no pages. -/
def isExcluded (name : String) : Bool :=
  [".", "__", "~"].any (·.toList.isPrefixOf name.toList) ||
    [".tmp", ".temp", ".bak", ".backup"].any (·.toList.isSuffixOf name.toList) ||
    name == "Thumbs.db"

/-- A file as a migration meets it. -/
structure PageFile where
  path : Path
  size : Nat
  bytes : List UInt8

mutual

/-- Paths below an entry, directories and what they hold included. -/
def Entry.pathsFrom (path : Path) : Entry → List Path
  | .directory entries => pathsBelow path entries
  | _ => []

def pathsBelow (path : Path) : List (String × Entry) → List Path
  | [] => []
  | (name, entry) :: rest =>
    path.child name :: entry.pathsFrom (path.child name) ++ pathsBelow path rest

end

/-- The first bytes of a database file; none of it is markup. -/
def databaseMark : List UInt8 := "SQLite format 3".toUTF8.toList ++ [0]

/-- A database takes at least a block for its schema and for every table and index. -/
def databaseSize (db : Store.Database) : Nat :=
  if db.tables.isEmpty then 0 else 4096 * (1 + db.tables.length + db.indexes.length)

namespace FileSystem

def file? (fs : FileSystem) (path : Path) : Option PageFile :=
  match fs.find? path with
  | some (.page bytes) => some ⟨path, bytes.length, bytes⟩
  | some (.database _ db) => some ⟨path, databaseSize db, if db.tables.isEmpty then [] else databaseMark⟩
  | _ => none

end FileSystem

inductive SetupError where
  | notADirectory (path : Path)
  deriving DecidableEq, Repr

def SetupError.message : SetupError → String
  | .notADirectory path => s!"Not a directory: {path}"

/-- Larger files first; those of one size by path. -/
def PageFile.le (a b : PageFile) : Bool :=
  b.size < a.size || (a.size == b.size && a.path.toString ≤ b.path.toString)

/-- The pages below a root. -/
def discover (fs : FileSystem) (root : Path) : Except SetupError (List PageFile) :=
  match fs.listing? root with
  | none => .error (.notADirectory root)
  | some entries =>
    let paths := (pathsBelow root entries).filter (!isExcluded ·.name)
    .ok ((paths.filterMap fs.file?).mergeSort PageFile.le)

end BoardMigration.Export
