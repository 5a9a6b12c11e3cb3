import BoardMigration.Text.Split

/-! Paths by their parts. Empty parts and single dots are dropped when a path is read; double dots
stay, because what they mean hangs on links. -/
namespace BoardMigration.Export

structure Path where
  absolute : Bool
  parts : List String
  deriving DecidableEq, Repr

namespace Path

def ofString (text : String) : Path :=
  let parts := (Text.split '/' text.toList).map String.ofList
  ⟨text.startsWith "/", parts.filter fun part => part != "" && part != "."⟩

def toString (path : Path) : String :=
  if path.absolute then "/" ++ "/".intercalate path.parts
  else if path.parts.isEmpty then "." else "/".intercalate path.parts

instance : ToString Path := ⟨toString⟩

/-- The last part. -/
def name (path : Path) : String := path.parts.getLast?.getD ""

def child (path : Path) (name : String) : Path := { path with parts := path.parts ++ [name] }

/-- A path as seen from another; an absolute one stays. -/
def append (base path : Path) : Path :=
  if path.absolute then path else { base with parts := base.parts ++ path.parts }

def beneath? : List String → List String → Option (List String)
  | [], parts => some parts
  | _ :: _, [] => none
  | r :: root, p :: parts => if r == p then beneath? root parts else none

/-- What follows the root in a path that begins with it. -/
def relativeTo? (path root : Path) : Option Path :=
  if path.absolute == root.absolute then (beneath? root.parts path.parts).map (⟨false, ·⟩) else none

/-- The name a file goes by in a migration of the root. -/
def nameIn (root path : Path) : String := ((path.relativeTo? root).getD path).toString

end Path
end BoardMigration.Export
