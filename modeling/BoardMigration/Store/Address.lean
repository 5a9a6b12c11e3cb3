import BoardMigration.Link
import BoardMigration.Store.Naming

/-! Addresses of databases: a kind with perhaps a driver, then user, host, port and the database. The
short form for a file names no host: the kind, a colon and the path. -/
namespace BoardMigration.Store

structure Address where
  scheme : String
  user : Option String := none
  password : Option String := none
  host : Option String := none
  port : Option String := none
  database : Option String := none
  query : Option String := none
  deriving DecidableEq, Repr

/-- Gives the short form of a file's address the slashes of the long one. -/
def normalizeAddress (text : String) : String :=
  let short := "sqlite:".toList
  let chars := text.toList
  if short.isPrefixOf chars && !"sqlite://".toList.isPrefixOf chars then
    "sqlite:///" ++ String.ofList (chars.drop short.length)
  else text

namespace Address

/-- The parts before and after the last occurrence of a character. -/
def splitLast? (c : Char) (text : List Char) : Option (List Char × List Char) :=
  let after := text.reverse.takeWhile (· != c)
  if after.length == text.length then none
  else some (text.take (text.length - after.length - 1), after.reverse)

def readUser (text : List Char) : Option (List Char) × Option (List Char) × List Char :=
  let run := text.takeWhile fun c => c != ':' && c != '/'
  let withPassword :=
    match text.drop run.length with
    | ':' :: rest =>
      let password := rest.takeWhile (· != '@')
      match rest.drop password.length with
      | _ :: rest => some (password, rest)
      | [] => none
    | _ => none
  match withPassword, splitLast? '@' run with
  | some (password, rest), _ => (some run, some password, rest)
  | none, some (user, _) => (some user, none, text.drop (user.length + 1))
  | none, none => (none, none, text)

/-- A host is a name, or an address between square brackets. -/
def readHost (text : List Char) : Option (List Char) × List Char :=
  let bracketed :=
    match text with
    | '[' :: rest =>
      match splitLast? ']' (rest.takeWhile fun c => c != '/' && c != '?') with
      | some (host, _) => if host.isEmpty then none else some (host, rest.drop (host.length + 1))
      | none => none
    | _ => none
  match bracketed with
  | some (host, rest) => (some host, rest)
  | none =>
    let host := text.takeWhile fun c => c != '/' && c != ':' && c != '?'
    (if host.isEmpty then none else some host, text.drop host.length)

/-- What a mark introduces, up to the first of the given ends. -/
def readPart (mark : Char) (ends : List Char) (text : List Char) :
    Option (List Char) × List Char :=
  match text with
  | c :: rest =>
    if c == mark then
      let part := rest.takeWhile (!ends.contains ·)
      (some part, rest.drop part.length)
    else (none, text)
  | [] => (none, [])

def read? (text : String) : Option Address :=
  let chars := text.toList
  let scheme := chars.takeWhile fun c => Text.isWordChar c || c == '+'
  match scheme, chars.drop scheme.length with
  | [], _ => none
  | _, ':' :: '/' :: '/' :: rest =>
    let (user, password, rest) := readUser rest
    let (host, rest) := readHost rest
    let (port, rest) := readPart ':' ['/', '?'] rest
    let (database, rest) := readPart '/' ['?'] rest
    let (query, _) := readPart '?' ['\n'] rest
    let string := fun (part : Option (List Char)) => part.map String.ofList
    some {
      scheme := String.ofList scheme, host := string host, port := string port
      user := user.map fun part => String.ofList (Link.decode part)
      password := password.map fun part => String.ofList (Link.decode part)
      database := string database, query := string query }
  | _, _ => none

end Address
end BoardMigration.Store
