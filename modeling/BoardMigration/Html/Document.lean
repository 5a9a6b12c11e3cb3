import BoardMigration.Html.Charset
import BoardMigration.Html.Nodes

/-! Building the tree of a page. No end tag is implied: an end tag closes the innermost open element
of its name and all in it, and is ignored when none is open. -/
namespace BoardMigration.Html

def voidElements : List String := [
  "area", "base", "br", "col", "embed", "hr", "img", "input", "keygen", "link", "menuitem", "meta",
  "param", "source", "track", "wbr", "basefont", "bgsound", "command", "frame", "image", "isindex",
  "nextid", "spacer"]

/-- Elements in which blanks are kept as they are. -/
def keepsBlanks (tag : Tag) : Bool := tag.name == "pre" || tag.name == "textarea"

structure Builder where
  /-- Nodes before the current place inside the innermost open element, the last first. -/
  before : Nodes := .nil
  /-- Open elements, the innermost first, each with the nodes before it, the last first. -/
  opened : List (Tag × Nodes) := []
  held : Option (List Char) := none
  /-- Void elements closed at once, whose next end tag is superfluous. -/
  settled : List String := []

namespace Builder

def isSpace (c : Char) : Bool := [' ', '\n', '\t', '\x0c', '\r'].contains c

/-- Text of spaces only shrinks to a line break if it has one, else to a space. -/
def shrink (chars : List Char) : List Char :=
  if chars.all isSpace then (if chars.contains '\n' then ['\n'] else [' ']) else chars

/-- Ends the text under way, as text of the given kind. -/
def flush (kind : TextKind) (b : Builder) : Builder :=
  match b.held with
  | none => b
  | some chars =>
    let chars := if b.opened.any (keepsBlanks ·.1) then chars else shrink chars
    let kind := if kind == .plain then (b.opened.findSome? (specialKind? ·.1.name)).getD kind else kind
    { b with before := .text kind (String.ofList chars) b.before, held := none }

def write (chars : List Char) (b : Builder) : Builder :=
  { b with held := some (b.held.getD [] ++ chars) }

/-- A text of its own, apart from the text around it. -/
def insert (kind : TextKind) (chars : List Char) (b : Builder) : Builder :=
  ((b.flush .plain).write chars).flush kind

def enter (tag : Tag) (b : Builder) : Builder :=
  let b := b.flush .plain
  { b with before := .nil, opened := (tag, b.before) :: b.opened }

/-- Closes open elements up to the innermost that satisfies `p`. -/
def leave (p : Tag → Bool) (before : Nodes) : List (Tag × Nodes) → Nodes × List (Tag × Nodes)
  | [] => (before, [])
  | (tag, outer) :: rest =>
    let closed := Nodes.element tag (before.reverseOnto .nil) outer
    if p tag then (closed, rest) else leave p closed rest

def close (name : String) (b : Builder) : Builder :=
  let b := b.flush .plain
  if b.opened.any (Tag.hasName name ·.1) then
    let (before, opened) := leave (Tag.hasName name) b.before b.opened
    { b with before, opened }
  else b

def closeWritten (name : String) (b : Builder) : Builder :=
  if b.settled.contains name then { b with settled := b.settled.erase name } else b.close name

/-- Text of a numeric reference. A number of one byte is a byte of the common Western set or else
of the page's own. -/
def numberText (charset : Charset) (n : Nat) : List Char :=
  let byte (set : Charset) : Option (List Char) :=
    if n < 256 then set.decode? [UInt8.ofNat n] else none
  let western := (Charset.find? "windows-1252").bind byte
  let exact := if n.isValidChar then [Char.ofNat n] else ['\uFFFD']
  ((western.orElse fun _ => byte charset).filter (!·.isEmpty)).getD exact

def take (charset : Charset) (b : Builder) : Token → Builder
  | .text chars => b.write chars
  | .number n => b.write (numberText charset n)
  | .opening name found selfClosed =>
    let b := b.enter ⟨name, found⟩
    if selfClosed then b.close name
    else if voidElements.contains name then
      let b := b.close name
      { b with settled := b.settled ++ [name] }
    else b
  | .closing name => b.closeWritten name
  | .comment chars => b.insert .comment chars
  | .doctype chars => b.insert .doctype (chars.drop "DOCTYPE ".length)
  | .instruction chars => b.insert .instruction chars
  | .marked chars =>
    if Text.lower (String.ofList (chars.take 6)) == "cdata[" then b.insert .cdata (chars.drop 6)
    else b.insert .declaration chars

def finish (b : Builder) : Nodes :=
  let b := b.flush .plain
  ((leave (fun _ => false) b.before b.opened).1).reverseOnto .nil

end Builder

def LoadError.message : LoadError → String
  | .rejectedMarkup => "Couldn't parse document: The markup you provided was rejected by the " ++
      "parser. Trying a different parser or a different encoding may help."
  | .overlongNumber digits => "Couldn't parse document: Exceeds the limit " ++
      s!"({Text.maxNumeralDigits} digits) for integer string conversion: value has {digits} digits; " ++
      "use sys.set_int_max_str_digits() to increase the limit"

/-- The tree of a page, as the content of an element that stands for the whole document. -/
def load (page : List UInt8) : Except LoadError Element := do
  let decoded := decodePage page
  let found ← tokens decoded.text
  let builder := found.foldl (Builder.take decoded.charset) {}
  pure ⟨⟨"[document]", []⟩, builder.finish, []⟩

end BoardMigration.Html
