import BoardMigration.Text.Blank

/-! Files of assignments, one a line: a name, an equals sign and a value, bare or between quotes. A
value may refer to variables of the environment and of the lines above it. -/
namespace BoardMigration.EnvFile

open Text

abbrev Variables := List (String × String)

def isLineEnd (c : Char) : Bool := c == '\n' || c == '\r'

def isGap (c : Char) : Bool := isBlank c && !isLineEnd c

/-- What follows the end of the line, if nothing but a comment comes before it. -/
def endLine? (text : List Char) : Option (List Char) :=
  let text := text.dropWhile isGap
  let text := if text.head? == some '#' then text.dropWhile (!isLineEnd ·) else text
  match text with
  | [] => some []
  | '\r' :: '\n' :: rest => some rest
  | c :: rest => if isLineEnd c then some rest else none

def skipLine (text : List Char) : List Char :=
  match text.dropWhile (!isLineEnd ·) with
  | [] => []
  | _ :: rest => rest

/-- Text up to the closing quote, and what follows it. A backslash keeps a quote from closing, unless
no other quote follows. -/
def untilQuote? (quote : Char) : List Char → Option (List Char × List Char)
  | [] => none
  | '\\' :: c :: rest =>
    if c == quote then
      match untilQuote? quote rest with
      | some (text, rest) => some ('\\' :: c :: text, rest)
      | none => some (['\\'], rest)
    else (untilQuote? quote (c :: rest)).map fun (text, rest) => ('\\' :: text, rest)
  | c :: rest =>
    if c == quote then some ([], rest)
    else (untilQuote? quote rest).map fun (text, rest) => (c :: text, rest)

def unescaped? (quote c : Char) : Option Char :=
  if c == '\\' || c == '\'' then some c
  else if quote == '\'' then none
  else match c with
    | '"' => some '"'
    | 'a' => some '\x07'
    | 'b' => some '\x08'
    | 'f' => some '\x0c'
    | 'n' => some '\n'
    | 'r' => some '\r'
    | 't' => some '\t'
    | 'v' => some '\x0b'
    | _ => none

def unescape (quote : Char) : List Char → List Char
  | '\\' :: c :: rest =>
    match unescaped? quote c with
    | some meant => meant :: unescape quote rest
    | none => '\\' :: unescape quote (c :: rest)
  | c :: rest => c :: unescape quote rest
  | [] => []

/-- A bare value ends where blanks and a number sign begin a comment. -/
def cutComment : List Char → List Char
  | [] => []
  | c :: rest =>
    if isBlank c && (rest.dropWhile isBlank).head? == some '#' then [] else c :: cutComment rest

def readValue? (text : List Char) : Option (List Char × List Char) :=
  match text with
  | [] => some ([], [])
  | c :: rest =>
    if c == '\'' || c == '"' then
      (untilQuote? c rest).map fun (value, rest) => (unescape c value, rest)
    else
      let value := text.takeWhile (!isLineEnd ·)
      some ((cutComment value).reverse.dropWhile isBlank |>.reverse, text.drop value.length)

def readName? (text : List Char) : Option (Option (List Char) × List Char) :=
  match text with
  | '#' :: _ => some (none, text)
  | '\'' :: rest =>
    let name := rest.takeWhile (· != '\'')
    match rest.drop name.length with
    | _ :: rest => if name.isEmpty then none else some (some name, rest)
    | [] => none
  | _ =>
    let name := text.takeWhile fun c => !(c == '=' || c == '#' || isBlank c)
    if name.isEmpty then none else some (some name, text.drop name.length)

def dropExport (text : List Char) : List Char :=
  match text with
  | 'e' :: 'x' :: 'p' :: 'o' :: 'r' :: 't' :: c :: rest =>
    if isGap c then rest.dropWhile isGap else text
  | _ => text

/-- A name with its value, which a line without an equals sign does not give. -/
abbrev Assignment := List Char × Option (List Char)

/-- One line from its start: its assignment, if it makes one, and the lines after it. A line that is
not well formed is passed over from where it goes wrong. -/
def readLine (text : List Char) : Option Assignment × List Char :=
  let text := dropExport text
  match readName? text with
  | none => (none, skipLine text)
  | some (name?, text) =>
    match text.dropWhile isGap with
    | '=' :: rest =>
      let rest := rest.dropWhile isGap
      match readValue? rest with
      | none => (none, skipLine rest)
      | some (value, rest) =>
        match endLine? rest with
        | some rest => (name?.map (·, some value), rest)
        | none => (none, skipLine rest)
    | text =>
      match endLine? text with
      | some rest => (name?.map (·, none), rest)
      | none => (none, skipLine text)

/-- Assignments in order; `fuel` bounds the number of lines. -/
def assignments : (fuel : Nat) → List Char → List Assignment
  | 0, _ => []
  | fuel + 1, text =>
    match text.dropWhile isBlank with
    | [] => []
    | text =>
      let (assignment?, rest) := readLine text
      assignment?.toList ++ assignments fuel rest

/-- A reference at the start of a text: the name, what stands in if there is no such variable, and the
rest. -/
def reference? (text : List Char) : Option (List Char × List Char × List Char) :=
  match text with
  | '$' :: '\x7b' :: rest =>
    let name := rest.takeWhile fun c => c != '\x7d' && c != ':'
    match rest.drop name.length with
    | '\x7d' :: rest => some (name, [], rest)
    | ':' :: '-' :: rest =>
      let fallback := rest.takeWhile (· != '\x7d')
      match rest.drop fallback.length with
      | _ :: rest => some (name, fallback, rest)
      | [] => none
    | _ => none
  | _ => none

/-- Replaces the references in a value; `fuel` bounds its length. -/
def expand (known : String → Option String) : (fuel : Nat) → List Char → List Char
  | 0, text => text
  | _, [] => []
  | fuel + 1, c :: rest =>
    match reference? (c :: rest) with
    | some (name, fallback, rest) =>
      ((known (String.ofList name)).map (·.toList)).getD fallback ++ expand known fuel rest
    | none => c :: expand known fuel rest

/-- What a file sets, the last line first; a line without a value unsets. What the file sets counts
before what the environment sets. -/
def read (environment : Variables) (file : String) : List (String × Option String) :=
  let text := file.toList
  (assignments (text.length + 1) text).foldl (fun set (name, value?) =>
    let known name := ((set.lookup name).join).orElse fun _ => environment.lookup name
    let value? := value?.map fun value => String.ofList (expand known value.length value)
    (String.ofList name, value?) :: set) []

end BoardMigration.EnvFile
