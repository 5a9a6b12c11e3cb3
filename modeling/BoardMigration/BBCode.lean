import BoardMigration.Html.Nodes

/-! Messages and signatures as BBCode. Elements with a code of their own become an opening and a
closing code around what is inside; headings of quotes and code boxes vanish, since the code says as
much; everything else is its content. -/
namespace BoardMigration.BBCode

open Html

/-- The codes that stand in pairs. -/
inductive Code where
  | url | bold | italic | underline | quote | codeBox | image
  deriving DecidableEq, Repr

def Code.name : Code → List Char
  | url => "url".toList
  | bold => "b".toList
  | italic => "i".toList
  | underline => "u".toList
  | quote => "quote".toList
  | codeBox => "code".toList
  | image => "img".toList

def Code.opening (code : Code) : List Char := '[' :: code.name ++ [']']

def Code.openingWith (code : Code) (argument : List Char) : List Char :=
  '[' :: code.name ++ '=' :: argument ++ [']']

def Code.closing (code : Code) : List Char := '[' :: '/' :: code.name ++ [']']

/-- Images of the post itself, as opposed to smilies. -/
def isPicture (tag : Tag) : Bool := tag.hasClass "postimg" || tag.hasClass "sigimage"

def wroteSuffix : List Char := " wrote:".toList

/-- The author in the heading of a quote. -/
def author (heading : Element) : List Char :=
  let name := Text.collapse heading.rawText
  if wroteSuffix.isSuffixOf name then name.take (name.length - wroteSuffix.length) else name

/-- The heading that opens the first box inside a quote. -/
def quoteHeading? (inside : Nodes) : Option Element :=
  ((inside.children []).head?.bind fun box => (box.inside.children []).head?).filter
    (·.tag.name == "h4")

/-- The opening code of a quote; a quote without an author has no argument. -/
def quoteOpening (inside : Nodes) : List Char :=
  match (quoteHeading? inside).map author with
  | none => Code.quote.opening
  | some [] => Code.quote.opening
  | some name => Code.quote.openingWith name

/-- What becomes of an element. -/
inductive Treatment where
  /-- Codes around the content; `keepBlanks` from here on. -/
  | wrap (opening : List Char) (closing : Code) (keepBlanks : Bool)
  | content
  /-- A paragraph, which is set off from a paragraph right before it. -/
  | paragraph
  /-- A text in place of the element and its content. -/
  | replace (text : List Char)
  deriving DecidableEq, Repr

def treatment (tag : Tag) (inside : Nodes) : Treatment :=
  match tag.name with
  | "a" => .wrap (Code.url.openingWith (tag.value "href").toList) .url false
  | "b" => .wrap Code.bold.opening .bold false
  | "strong" => .wrap Code.bold.opening .bold false
  | "i" => .wrap Code.italic.opening .italic false
  | "em" => .wrap Code.italic.opening .italic false
  | "span" => if tag.hasClass "bbu" then .wrap Code.underline.opening .underline false else .content
  | "blockquote" => .wrap (quoteOpening inside) .quote false
  | "div" => if tag.hasClass "codebox" then .wrap Code.codeBox.opening .codeBox true else .content
  | "h4" => .replace []
  | "br" => .replace ['\n']
  | "p" => .paragraph
  | "img" =>
    if isPicture tag then
      .replace (Code.image.opening ++ (tag.value "src").toList ++ Code.image.closing)
    else .replace (tag.value "alt").toList
  | _ => .content

/-- Text between tags: blanks count as one space unless they are kept. -/
def plain (keepBlanks : Bool) (content : String) : List Char :=
  if keepBlanks then content.toList else Text.squeeze content.toList

/-- `previous` is the name of the element before, at the same level. -/
def convert (keepBlanks : Bool) (previous : Option String) : Nodes → List Char
  | .nil => []
  | .text kind content next =>
    (if kind == .comment then [] else plain keepBlanks content) ++ convert keepBlanks previous next
  | .element tag inside next =>
    (match treatment tag inside with
      | .wrap opening closing keep =>
        opening ++ convert (keepBlanks || keep) none inside ++ closing.closing
      | .content => convert keepBlanks none inside
      | .paragraph =>
        (if previous == some "p" then ['\n', '\n'] else []) ++ convert keepBlanks none inside
      | .replace text => text) ++ convert keepBlanks (some tag.name) next

def ofNodes (inside : Nodes) : String := String.ofList (Text.strip (convert false none inside))

def ofElement (e : Element) : String := ofNodes e.inside

/-- Whether there is an image that is not one of the post's own. -/
def hasSmilies (e : Element) : Bool :=
  e.descendants.any fun d => d.tag.name == "img" && !isPicture d.tag

end BoardMigration.BBCode
