import BoardMigration.Export.Path
import BoardMigration.Store.Database

/-! Directory trees with symbolic links. -/
namespace BoardMigration.Export

inductive Entry where
  | file (bytes : List UInt8)
  | database (database : Store.Database)
  | directory (entries : List (String × Entry))
  | link (target : String)

abbrev Listing := List (String × Entry)

/-- A directory with those above it, innermost first, each with its name in the one above. -/
abbrev Chain := List (String × Listing)

namespace Chain

def listing (within : Chain) : Listing := (within.head?.map (·.2)).getD []

/-- Names from the root down; the root itself has none. -/
def names (within : Chain) : List String := (within.map (·.1)).reverse.tail

/-- The root is its own parent. -/
def parent : Chain → Chain
  | _ :: outer :: rest => outer :: rest
  | within => within

end Chain

/-- What a path leads to once all links are followed. -/
inductive Found where
  | directory (within : Chain)
  | page (bytes : List UInt8)
  /-- A database, and where it is from the root down. -/
  | database (names : List String) (database : Store.Database)

/-- Takes parts one by one from the innermost of the given directories. A link is left to `follow`,
together with the parts behind it. -/
def resolveWith (follow : Chain → String → List String → Option Found) :
    Chain → List String → Option Found
  | within, [] => some (.directory within)
  | within, part :: rest =>
    if part == ".." then resolveWith follow within.parent rest
    else match within.listing.lookup part with
      | none => none
      | some (.directory entries) => resolveWith follow ((part, entries) :: within) rest
      | some (.link target) => follow within target rest
      | some (.file bytes) => if rest.isEmpty then some (.page bytes) else none
      | some (.database database) =>
        if rest.isEmpty then some (.database (within.names ++ [part]) database) else none

/-- Follows at most `links` links. -/
def resolve (root : Listing) : (links : Nat) → Chain → List String → Option Found
  | 0, within, parts => resolveWith (fun _ _ _ => none) within parts
  | links + 1, within, parts =>
    resolveWith (fun within target rest =>
      let path := Path.ofString target
      resolve root links (if path.absolute then [("", root)] else within) (path.parts ++ rest))
      within parts

/-- Puts an entry where the names lead, in place of what is there. -/
def putAt (entry : Entry) : List String → Listing → Listing
  | [], listing => listing
  | [name], listing =>
    if (listing.lookup name).isSome then
      listing.map fun (other, old) => (other, if other == name then entry else old)
    else listing ++ [(name, entry)]
  | name :: rest, listing =>
    listing.map fun (other, old) =>
      match old with
      | .directory entries =>
        (other, if other == name then .directory (putAt entry rest entries) else old)
      | _ => (other, old)

/-- Puts an entry where the names lead, with the directories above it; an empty directory replaces
nothing. -/
def plant (entry : Entry) : List String → Listing → Listing
  | [], listing => listing
  | [name], listing =>
    match entry, listing.lookup name with
    | .directory [], some _ => listing
    | _, _ => putAt entry [name] listing
  | name :: rest, listing =>
    let inner := match listing.lookup name with
      | some (.directory entries) => entries
      | _ => []
    putAt (.directory (plant entry rest inner)) [name] listing

/-- A tree, and the directory that relative paths start from. -/
structure FileSystem where
  root : Listing
  home : List String := []

namespace FileSystem

/-- Longer chains of links are not followed. -/
def maxLinks : Nat := 40

def find? (fs : FileSystem) (path : Path) : Option Found :=
  resolve fs.root maxLinks [("", fs.root)] (if path.absolute then path.parts else fs.home ++ path.parts)

def listing? (fs : FileSystem) (path : Path) : Option Listing :=
  match fs.find? path with
  | some (.directory within) => some within.listing
  | _ => none

end FileSystem
end BoardMigration.Export
