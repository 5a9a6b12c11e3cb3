import BoardMigration.Html.Token
import BoardMigration.Text.Blank

/-! Element trees. A list of sibling nodes is one inductive value: each node names the one after it,
and an element also holds the nodes inside it. -/
namespace BoardMigration.Html

/-- What a piece of text is. Text inside some elements is kept apart from that of the page around. -/
inductive TextKind where
  | plain | cdata | comment | doctype | declaration | instruction
  | script | style | template | rubyText | rubyParenthesis
  deriving DecidableEq, Repr

structure Tag where
  name : String
  attributes : Attributes
  deriving DecidableEq, Repr

namespace Tag

def value? (tag : Tag) (name : String) : Option String :=
  (tag.attributes.find? (·.1 == name)).map (·.2)

def value (tag : Tag) (name : String) : String := (tag.value? name).getD ""

def classes (tag : Tag) : List (List Char) := Text.words (tag.value "class").toList

def hasClass (className : String) (tag : Tag) : Bool := tag.classes.contains className.toList

def hasName (name : String) (tag : Tag) : Bool := tag.name == name

end Tag

inductive Nodes where
  | nil
  | text (kind : TextKind) (content : String) (next : Nodes)
  | element (tag : Tag) (inside next : Nodes)
  deriving DecidableEq, Repr

/-- The kind of text that an element of this name sets apart. -/
def specialKind? : String → Option TextKind
  | "script" => some .script
  | "style" => some .style
  | "template" => some .template
  | "rt" => some .rubyText
  | "rp" => some .rubyParenthesis
  | _ => none

/-- Whether text of a kind counts as the text of an element. -/
def TextKind.shownIn (tag : Tag) (kind : TextKind) : Bool :=
  match specialKind? tag.name with
  | some special => kind == special
  | none => kind == .plain || kind == .cdata

/-- An element with the tags it stands in, the innermost first. -/
structure Element where
  tag : Tag
  inside : Nodes
  above : List Tag
  deriving DecidableEq, Repr

namespace Nodes

/-- Number of nodes. -/
def size : Nodes → Nat
  | nil => 0
  | text _ _ next => next.size + 1
  | element _ inside next => inside.size + next.size + 1

/-- Puts the nodes of a reversed list in front of others. -/
def reverseOnto : Nodes → Nodes → Nodes
  | nil, others => others
  | text kind content next, others => next.reverseOnto (text kind content others)
  | element tag inside next, others => next.reverseOnto (element tag inside others)

/-- The text of the kinds accepted, in document order. -/
def gather (accept : TextKind → Bool) : Nodes → List Char
  | nil => []
  | text kind content next =>
    if accept kind then content.toList ++ next.gather accept else next.gather accept
  | element _ inside next => inside.gather accept ++ next.gather accept

/-- All texts that are no element's, whatever their kind. -/
def ownTexts : Nodes → List (List Char)
  | nil => []
  | text _ content next => content.toList :: next.ownTexts
  | element _ _ next => next.ownTexts

/-- The elements among the nodes themselves, without what is inside them. -/
def children (above : List Tag) : Nodes → List Element
  | nil => []
  | text _ _ next => next.children above
  | element tag inside next => ⟨tag, inside, above⟩ :: next.children above

/-- Every element in document order. -/
def elements (above : List Tag) : Nodes → List Element
  | nil => []
  | text _ _ next => next.elements above
  | element tag inside next =>
    ⟨tag, inside, above⟩ :: (inside.elements (tag :: above) ++ next.elements above)

end Nodes

namespace Element

def descendants (e : Element) : List Element := e.inside.elements (e.tag :: e.above)

def select (p : Tag → Bool) (e : Element) : List Element := e.descendants.filter (p ·.tag)

def find? (p : Tag → Bool) (e : Element) : Option Element := e.descendants.find? (p ·.tag)

/-- Descendants that satisfy `inner` and stand in an element, inside `e` or around it, that satisfies
`outer`. -/
def selectUnder (outer inner : Tag → Bool) (e : Element) : List Element :=
  e.descendants.filter fun d => inner d.tag && d.above.any outer

def findUnder? (outer inner : Tag → Bool) (e : Element) : Option Element :=
  e.descendants.find? fun d => inner d.tag && d.above.any outer

def rawText (e : Element) : List Char := e.inside.gather (TextKind.shownIn e.tag)

/-- The text of an element with its blanks collapsed. -/
def text (e : Element) : String := String.ofList (Text.collapse e.rawText)

/-- The text directly inside an element, of any kind; `none` if there is none but blanks. -/
def ownText? (e : Element) : Option String :=
  match Text.collapse ([' '].intercalate e.inside.ownTexts) with
  | [] => none
  | chars => some (String.ofList chars)

end Element
end BoardMigration.Html
