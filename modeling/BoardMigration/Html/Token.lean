import BoardMigration.Html.Reference
import BoardMigration.Text.Case

/-! Splitting a page into tags, texts and declarations. Nothing is refused but a marked section with
an unknown keyword and a character number of absurd length: whatever is no markup is text.

A page is read in two passes. The first stops at the first construct that is not finished; the
second goes on from there, and text that cannot be finished any more is taken as it stands. -/
namespace BoardMigration.Html

abbrev Attributes := List (String × String)

inductive Token where
  | text (chars : List Char)
  | number (value : Nat)
  | opening (name : String) (attributes : Attributes) (selfClosed : Bool)
  | closing (name : String)
  | comment (chars : List Char)
  | doctype (chars : List Char)
  | instruction (chars : List Char)
  | marked (chars : List Char)
  deriving Repr

inductive LoadError where
  | rejectedMarkup
  | overlongNumber (digits : Nat)
  deriving DecidableEq, Repr

/-- The text before the first place where `close` succeeds, and what `close` leaves. -/
def upTo? (close : List Char → Option (List Char)) : List Char → Option (List Char × List Char)
  | [] => (close []).map ([], ·)
  | c :: rest =>
    match close (c :: rest) with
    | some after => some ([], after)
    | none => (upTo? close rest).map fun (before, after) => (c :: before, after)

def closeWith (mark : Char) : List Char → Option (List Char)
  | [] => none
  | c :: rest => if c == mark then some rest else none

/-- A closing angle bracket after blanks. -/
def closeTag (text : List Char) : Option (List Char) := closeWith '>' (text.dropWhile Text.isBlank)

def closeComment : List Char → Option (List Char)
  | '-' :: '-' :: rest => closeTag rest
  | _ => none

def closeOffice : List Char → Option (List Char)
  | ']' :: rest => closeTag rest
  | _ => none

def closeMarked : List Char → Option (List Char)
  | ']' :: rest => closeOffice (rest.dropWhile Text.isBlank)
  | _ => none

/-- The end tag of an element with raw content, in any case. -/
def closeRaw (name : List Char) : List Char → Option (List Char)
  | '<' :: '/' :: rest =>
    let rest := rest.dropWhile Text.isBlank
    let candidate := rest.take name.length
    if candidate.length == name.length && (candidate.zip name).all fun (a, b) => Text.alike a b then
      closeTag (rest.drop name.length)
    else none
  | _ => none

/-- Blanks and slashes between attributes; a slash before the closing bracket stays. The first
component is the last character passed. -/
def skipBetween (previous : Char) : List Char → Char × List Char
  | [] => (previous, [])
  | c :: rest =>
    if Text.isBlank c || (c == '/' && rest.head? != some '>') then skipBetween c rest
    else (previous, c :: rest)

def isTagNameEnd (c : Char) : Bool := ['\t', '\n', '\r', '\x0c', ' ', '/', '>', '\x00'].contains c

def isValueEnd (c : Char) : Bool := c == '>' || Text.isBlank c

def isQuotation (c : Char) : Bool := c == '\'' || c == '"'

/-- What may stand before the name of an attribute. -/
def separates (c : Char) : Bool := isQuotation c || c == '/' || Text.isBlank c

structure AttributeValue where
  value : List Char
  /-- The last character of the value as written. -/
  last : Char
  rest : List Char

def bareValue (previous : Char) (text : List Char) : AttributeValue :=
  let value := text.takeWhile (!isValueEnd ·)
  ⟨value, value.getLastD previous, text.dropWhile (!isValueEnd ·)⟩

/-- The value behind the name of an attribute. A quotation that is never closed opens no value: with
a blank before it the value is empty, with two equals signs the second belongs to a bare value. -/
def attributeValue? (text : List Char) : Option AttributeValue :=
  let signs := text.dropWhile Text.isBlank
  let count := (signs.takeWhile (· == '=')).length
  let spaced := signs.drop count
  let body := spaced.dropWhile Text.isBlank
  let spaces := spaced.length - body.length
  if count == 0 then none
  else match body with
    | [] => some ⟨[], if spaces == 0 then '=' else ' ', []⟩
    | c :: inner =>
      if isQuotation c then
        match upTo? (closeWith c) inner with
        | some (value, after) => some ⟨value, c, after⟩
        | none =>
          if spaces > 0 then some ⟨[], ' ', body⟩
          else if count > 1 then some (bareValue '=' ('=' :: body))
          else none
      else some (bareValue (if spaces == 0 then '=' else ' ') body)

/-- The attributes of a tag as written, and the rest of the text. -/
def attributes : Nat → Char → List Char → List (List Char × List Char) × List Char
  | 0, _, text => ([], text)
  | _ + 1, _, [] => ([], [])
  | fuel + 1, previous, c :: rest =>
    if separates previous && !(Text.isBlank c || c == '/' || c == '>') then
      let isNameEnd (d : Char) : Bool := Text.isBlank d || d == '/' || d == '=' || d == '>'
      let more := rest.takeWhile (!isNameEnd ·)
      let behind := rest.drop more.length
      let (value, last, behind) :=
        match attributeValue? behind with
        | some found => (found.value, found.last, found.rest)
        | none => ([], more.getLastD c, behind)
      let (previous, behind) := skipBetween last behind
      let (others, final) := attributes fuel previous behind
      ((c :: more, value) :: others, final)
    else ([], c :: rest)

/-- What the text at hand turns out to be. -/
inductive Piece where
  | token (token : Token) (rest : List Char)
  | nothing (rest : List Char)
  | unfinished

def lowerName (name : List Char) : String := Text.lower (String.ofList name)

/-- The later of two attributes of one name counts. -/
def readAttributes : List (List Char × List Char) → Except LoadError Attributes
  | [] => .ok []
  | (name, value) :: rest =>
    match unescape value, readAttributes rest with
    | .error error, _ => .error (.overlongNumber error.digits)
    | .ok _, .error error => .error error
    | .ok value, .ok others =>
      let name := lowerName name
      .ok (if others.any (·.1 == name) then others else (name, String.ofList value) :: others)

/-- A start tag; `text` begins at its angle bracket. -/
def startTag (text : List Char) : Except LoadError Piece :=
  let inside := text.drop 1
  let name := inside.takeWhile (!isTagNameEnd ·)
  let (previous, behind) := skipBetween (name.getLastD '<') (inside.drop name.length)
  let (written, final) := attributes text.length previous behind
  let tag (selfClosed : Bool) (rest : List Char) : Except LoadError Piece :=
    (readAttributes written).map fun found =>
      .token (.opening (lowerName name) found selfClosed) rest
  match final with
  | [] => .ok .unfinished
  | '>' :: rest => tag false rest
  | '/' :: '>' :: rest => tag true rest
  | c :: _ =>
    if c.isAlpha || c == '=' then .ok .unfinished
    else (readAttributes written).map fun _ =>
      .token (.text (text.take (text.length - final.length))) final

def isEndNameChar (c : Char) : Bool := c.isAlphanum || ['-', '.', ':', '_'].contains c

/-- Name and rest of an end tag that holds nothing but its name. -/
def plainEndTag? (text : List Char) : Option (String × List Char) :=
  let inside := (text.drop 2).dropWhile Text.isBlank
  if inside.head?.any Char.isAlpha then
    let name := inside.takeWhile isEndNameChar
    (closeTag (inside.drop name.length)).map (lowerName name, ·)
  else none

/-- An end tag; `text` begins at its angle bracket. -/
def endTag (text : List Char) : Piece :=
  match upTo? (closeWith '>') (text.drop 2) with
  | none => .unfinished
  | some (content, after) =>
    match plainEndTag? text with
    | some (name, rest) => .token (.closing name) rest
    | none =>
      if content.head?.any Char.isAlpha then
        .token (.closing (lowerName (content.takeWhile (!isTagNameEnd ·)))) after
      else if content.isEmpty then .nothing after
      else .token (.comment content) after

def isSectionNameChar (c : Char) : Bool := c.isAlphanum || ['-', '_', '.'].contains c

/-- A marked section; `text` begins behind its opening bracket. -/
def markedSection (text : List Char) : Except LoadError Piece :=
  let name := text.takeWhile isSectionNameChar
  let upTo (close : List Char → Option (List Char)) : Piece :=
    match upTo? close text with
    | some (content, rest) => .token (.marked content) rest
    | none => .unfinished
  if text.isEmpty then .ok .unfinished
  else if !(text.head?.any Char.isAlpha) then .error .rejectedMarkup
  else if ((text.drop name.length).dropWhile Text.isBlank).isEmpty then .ok .unfinished
  else
    let keyword := lowerName name
    if ["temp", "cdata", "ignore", "include", "rcdata"].contains keyword then .ok (upTo closeMarked)
    else if ["if", "else", "endif"].contains keyword then .ok (upTo closeOffice)
    else .error .rejectedMarkup

def closed (make : List Char → Token) (text : List Char) : Piece :=
  match upTo? (closeWith '>') text with
  | some (content, rest) => .token (make content) rest
  | none => .unfinished

def markup (text : List Char) : Except LoadError Piece :=
  match text with
  | '<' :: '/' :: _ => .ok (endTag text)
  | '<' :: '!' :: '-' :: '-' :: rest =>
    match upTo? closeComment rest with
    | some (content, after) => .ok (.token (.comment content) after)
    | none => .ok .unfinished
  | '<' :: '?' :: rest => .ok (closed .instruction rest)
  | '<' :: '!' :: '[' :: rest => markedSection rest
  | '<' :: '!' :: rest =>
    let keyword := rest.take 7
    if lowerName keyword == "doctype" then
      match upTo? (closeWith '>') (rest.drop 7) with
      | some (content, after) => .ok (.token (.doctype (keyword ++ content)) after)
      | none => .ok .unfinished
    else .ok (closed .comment rest)
  | '<' :: c :: rest =>
    if c.isAlpha then startTag text else .ok (.token (.text ['<']) (c :: rest))
  | _ => .ok .unfinished

/-- Takes unfinished markup as text: up to its closing bracket, else up to the next opening one,
else one character. -/
def asText (text : List Char) : List Char × List Char :=
  match text with
  | [] => ([], [])
  | c :: rest =>
    match upTo? (closeWith '>') rest with
    | some (content, after) => (c :: content ++ ['>'], after)
    | none =>
      match rest.dropWhile (· != '<') with
      | [] => ([c], rest)
      | after => (c :: rest.takeWhile (· != '<'), after)

inductive Advance where
  | on (tokens : List Token) (raw : Option String) (rest : List Char)
  | stop (tokens : List Token) (rest : List Char)

/-- A numeric reference, which a character other than a hexadecimal digit must end; a semicolon
belongs to it. Without one the pass stops. -/
def numericReference (text : List Char) : Except LoadError Advance :=
  let body := text.drop 2
  let isHex (c : Char) : Bool := (Link.hexValue? c).isSome
  let finish (value : Nat) (rest : List Char) : Advance := .on [.number value] none (semicolon rest).2
  let fail : Advance :=
    if body.contains ';' then .stop [.text ['&', '#']] body else .stop [] text
  match body with
  | x :: digits =>
    if x == 'x' || x == 'X' then
      let number := digits.takeWhile isHex
      let rest := digits.drop number.length
      .ok (if number.isEmpty || rest.isEmpty then fail else finish (readHex number) rest)
    else
      let number := body.takeWhile Char.isDigit
      let rest := body.drop number.length
      if number.isEmpty || rest.isEmpty || rest.head?.any isHex then .ok fail
      else if number.length > Text.maxNumeralDigits then .error (.overlongNumber number.length)
      else .ok (finish (Text.ofDigits 10 (number.filterMap Text.digitValue?)) rest)
  | [] => .ok fail

def isReferenceNameChar (c : Char) : Bool := c.isAlphanum || c == '-' || c == '.'

/-- A reference by name, which a character other than a letter or digit must end. An unknown name
is text. In the second pass an ampersand before the very last letter is dropped. -/
def namedReference (again : Bool) (text : List Char) : Advance :=
  let body := text.drop 1
  let finish (name rest : List Char) : Advance :=
    .on [.text ((named? name).getD ('&' :: name))] none (semicolon rest).2
  if body.head?.any Char.isAlpha then
    let run := body.takeWhile isReferenceNameChar
    let rest := body.drop run.length
    if !rest.isEmpty then finish run rest
    else
      let tail := run.reverse.takeWhile Char.isAlphanum
      if tail.length < run.length then
        let name := run.take (run.length - tail.length - 1)
        finish name (body.drop name.length)
      else if again && body.length == 1 then .stop [] body
      else .stop [] text
  else if body.isEmpty then .stop [] text
  else .on [.text ['&']] none body

/-- Elements whose content is text up to their end tag. -/
def isRawElement (name : String) : Bool := name == "script" || name == "style"

def advanceMarkup (again : Bool) (text : List Char) : Except LoadError Advance :=
  match markup text with
  | .error error => .error error
  | .ok (.nothing rest) => .ok (.on [] none rest)
  | .ok (.token (.opening name found selfClosed) rest) =>
    let raw := if !selfClosed && isRawElement name then some name else none
    .ok (.on [.opening name found selfClosed] raw rest)
  | .ok (.token token rest) => .ok (.on [token] none rest)
  | .ok .unfinished =>
    if again && text.length > 1 then
      let (chars, rest) := asText text
      .ok (.on [.text chars] none rest)
    else .ok (.stop [] text)

/-- One step inside an element with raw content. -/
def advanceRaw (name : String) (text : List Char) : Advance :=
  match upTo? (closeRaw name.toList) text with
  | none => .stop [] text
  | some (content, rest) =>
    let found := text.drop content.length
    let before := if content.isEmpty then [] else [Token.text content]
    match plainEndTag? found with
    | some (closingName, rest) => .on (before ++ [.closing closingName]) none rest
    | none => .on (before ++ [.text (found.take (found.length - rest.length))]) (some name) rest

def advance (again : Bool) (raw : Option String) (text : List Char) : Except LoadError Advance :=
  match raw with
  | some name => .ok (advanceRaw name text)
  | none =>
    match text with
    | '<' :: _ => advanceMarkup again text
    | '&' :: '#' :: _ => numericReference text
    | '&' :: _ => .ok (namedReference again text)
    | _ =>
      let plain := text.takeWhile fun c => c != '<' && c != '&'
      .ok (.on [.text plain] none (text.drop plain.length))

/-- Where a pass ended: the element whose raw content it was in, and the text left. -/
structure Leftover where
  raw : Option String
  rest : List Char

def pass (again : Bool) : Nat → Option String → List Char → Except LoadError (List Token × Leftover)
  | 0, raw, text => .ok ([], ⟨raw, text⟩)
  | _ + 1, raw, [] => .ok ([], ⟨raw, []⟩)
  | fuel + 1, raw, c :: text =>
    match advance again raw (c :: text) with
    | .error error => .error error
    | .ok (.stop tokens rest) => .ok (tokens, ⟨raw, rest⟩)
    | .ok (.on tokens raw rest) =>
      match pass again fuel raw rest with
      | .error error => .error error
      | .ok (more, leftover) => .ok (tokens ++ more, leftover)

/-- The tokens of a page. Unfinished raw content at the end is dropped. -/
def tokens (text : List Char) : Except LoadError (List Token) := do
  let (first, leftover) ← pass false text.length none text
  let (second, leftover) ← pass true leftover.rest.length leftover.raw leftover.rest
  let final := if leftover.raw.isSome || leftover.rest.isEmpty then [] else [Token.text leftover.rest]
  pure (first ++ second ++ final)

end BoardMigration.Html
