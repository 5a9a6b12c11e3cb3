import BoardMigration.Console.Emoji

/-! Styled console text. Tags between square brackets switch styles on and off and are not shown; a
backslash before a tag makes it plain text. -/
namespace BoardMigration.Console

open Text

/-- A closing tag without an opening one. -/
inductive MarkupError where
  | unmatched (tag : String)
  deriving DecidableEq, Repr

def beginsTag (c : Char) : Bool := ('a' ≤ c && c ≤ 'z') || c == '#' || c == '/' || c == '@'

/-- Reads a tag: what stands between its brackets, and the rest. -/
def tag? : List Char → Option (List Char × List Char)
  | '[' :: c :: rest =>
    let inner := rest.takeWhile fun c => c != '[' && c != ']'
    match rest.drop inner.length with
    | ']' :: rest => if beginsTag c then some (c :: inner, rest) else none
    | _ => none
  | _ => none

/-- Puts backslashes before what would be read as tags; `fuel` bounds the length. -/
def escapeTags : (fuel : Nat) → List Char → List Char
  | 0, text => text
  | _, [] => []
  | fuel + 1, c :: rest =>
    let slashes := (c :: rest).takeWhile (· == '\\')
    match tag? ((c :: rest).drop slashes.length) with
    | some (inner, rest) =>
      slashes ++ slashes ++ '\\' :: '[' :: inner ++ ']' :: escapeTags fuel rest
    | none => c :: escapeTags fuel rest

/-- Text that is shown as it is, also before a tag unless it ends in several backslashes. -/
def escape (text : String) : String :=
  let escaped := escapeTags text.length text.toList
  let slashes := (escaped.reverse.takeWhile (· == '\\')).length
  String.ofList (if slashes == 1 then escaped ++ ['\\'] else escaped)

inductive Piece where
  | plain (text : List Char)
  | tag (inner : List Char)
  deriving DecidableEq, Repr

/-- Cuts text at its tags. `held` is the plain text so far, reversed. Of the backslashes before a tag,
every two show one, and an odd one turns the tag into text. -/
def pieces : (fuel : Nat) → (held : List Char) → List Char → List Piece
  | 0, held, text => [.plain (held.reverse ++ text)]
  | _, held, [] => if held.isEmpty then [] else [.plain held.reverse]
  | fuel + 1, held, c :: rest =>
    let slashes := (c :: rest).takeWhile (· == '\\')
    match tag? ((c :: rest).drop slashes.length) with
    | some (inner, rest) =>
      let before : List Piece := if held.isEmpty then [] else [.plain held.reverse]
      let shown : List Piece :=
        if slashes.length < 2 then [] else [.plain (List.replicate (slashes.length / 2) '\\')]
      let tag : Piece :=
        if slashes.length % 2 == 1 then .plain ('[' :: inner ++ [']']) else .tag inner
      before ++ shown ++ tag :: pieces fuel [] rest
    | none =>
      if slashes.isEmpty then pieces fuel (c :: held) rest
      else pieces fuel (slashes.reverse ++ held) ((c :: rest).drop slashes.length)

/-- A backslash before a bracket is not shown. -/
def withoutEscapes : List Char → List Char
  | '\\' :: '[' :: rest => '[' :: withoutEscapes rest
  | c :: rest => c :: withoutEscapes rest
  | [] => []

def plainText (text : List Char) : List Char :=
  let text := withoutEscapes text
  showEmojis text.length text

def styleNames : List (String × String) := [
  ("b", "bold"), ("d", "dim"), ("i", "italic"), ("u", "underline"), ("r", "reverse"),
  ("c", "conceal"), ("s", "strike"), ("uu", "underline2"), ("o", "overline")]

def styleName (name : List Char) : String :=
  let lower := lower (String.ofList (strip name))
  (styleNames.lookup lower).getD lower

/-- Shows the pieces; `opened` holds the open styles, innermost first. -/
def show? : (opened : List String) → List Piece → Except MarkupError (List Char)
  | _, [] => .ok []
  | opened, .plain text :: rest => do
    let shown ← show? opened rest
    pure (plainText text ++ shown)
  | opened, .tag inner :: rest =>
    let name := inner.takeWhile (· != '=')
    match name with
    | '/' :: closing =>
      let style := styleName closing
      if (strip closing).isEmpty then
        if opened.isEmpty then .error (.unmatched (String.ofList inner)) else show? opened.tail rest
      else if opened.contains style then show? (opened.erase style) rest
      else .error (.unmatched (String.ofList inner))
    | _ => show? (styleName name :: opened) rest

def render (text : String) : Except MarkupError String := do
  if text.contains '[' then
    let shown ← show? [] (pieces (text.length + 1) [] text.toList)
    pure (String.ofList shown)
  else pure (String.ofList (plainText text.toList))

end BoardMigration.Console
