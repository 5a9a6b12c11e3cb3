import Std.Data.HashMap
import BoardMigration.Html.ReferenceNames
import BoardMigration.Link
import BoardMigration.Text.Numeral

/-! Character references, by name and by number. In attribute values a name also counts without its
semicolon if it is one of the old ones, and the longest such name wins. -/
namespace BoardMigration.Html

def readHex (digits : List Char) : Nat := Text.ofDigits 16 (digits.filterMap Link.hexValue?)

structure NamedReference where
  chars : List Char
  /-- Whether the name is also known without its semicolon. -/
  bare : Bool

def readNamedReference (entry : String) : String × NamedReference :=
  let name := entry.toList.takeWhile (· != '=')
  let codes := (entry.toList.dropWhile (· != '=')).drop 1
  let chars := (Text.split '+' codes).map fun code => Char.ofNat (readHex code)
  if name.getLast? == some '*' then (String.ofList name.dropLast, ⟨chars, true⟩)
  else (String.ofList name, ⟨chars, false⟩)

def namedReferences : Std.HashMap String NamedReference :=
  Std.HashMap.ofList ((Text.words referenceNames.toList).map (readNamedReference ∘ String.ofList))

def named? (name : List Char) : Option (List Char) :=
  (namedReferences[String.ofList name]?).map (·.chars)

def bareNamed? (name : List Char) : Option (List Char) :=
  match namedReferences[String.ofList name]? with
  | some reference => if reference.bare then some reference.chars else none
  | none => none

/-- What the numbers 128 to 159 stand for: a common single-byte character set, not control codes. -/
def highControls : List Nat := [
  0x20AC, 0x81, 0x201A, 0x192, 0x201E, 0x2026, 0x2020, 0x2021, 0x2C6, 0x2030, 0x160, 0x2039, 0x152,
  0x8D, 0x17D, 0x8F, 0x90, 0x2018, 0x2019, 0x201C, 0x201D, 0x2022, 0x2013, 0x2014, 0x2DC, 0x2122,
  0x161, 0x203A, 0x153, 0x9D, 0x17E, 0x178]

/-- Numbers that stand for no character at all. -/
def isNonCharacter (n : Nat) : Bool :=
  (1 ≤ n && n ≤ 8) || n == 0xB || (0xE ≤ n && n ≤ 0x1F) || n == 0x7F ||
    (0xFDD0 ≤ n && n ≤ 0xFDEF) || 0xFFFE ≤ n % 0x10000

def numbered (n : Nat) : List Char :=
  if n == 0 then ['\uFFFD']
  else if 0x80 ≤ n && n ≤ 0x9F then [Char.ofNat (highControls.getD (n - 0x80) n)]
  else if (0xD800 ≤ n && n ≤ 0xDFFF) || n > 0x10FFFF then ['\uFFFD']
  else if isNonCharacter n then []
  else [Char.ofNat n]

/-- A decimal reference with more digits than a numeral may have. -/
structure OverlongNumber where
  digits : Nat
  deriving DecidableEq, Repr

/-- The longest known start, of two or more characters, and what follows it. -/
def longestBare? (name : List Char) : Nat → Option (List Char)
  | 0 => none
  | 1 => none
  | n + 1 =>
    match bareNamed? (name.take (n + 1)) with
    | some chars => some (chars ++ name.drop (n + 1))
    | none => longestBare? name n

def namedText (name : List Char) (semicolon : Bool) : List Char :=
  let written := if semicolon then name ++ [';'] else name
  match if semicolon then named? name else bareNamed? name with
  | some chars => chars
  | none =>
    match longestBare? written (written.length - 1) with
    | some chars => chars
    | none => '&' :: written

def isNameChar (c : Char) : Bool := !(['\t', '\n', '\x0c', ' ', '<', '&', '#', ';'].contains c)

/-- A semicolon at the start of a text, and the text without it. -/
def semicolon (text : List Char) : Bool × List Char :=
  match text with
  | ';' :: rest => (true, rest)
  | _ => (false, text)

/-- The reference after an ampersand: its text and what follows; `none` if it is no reference. -/
def reference (text : List Char) : Except OverlongNumber (Option (List Char × List Char)) :=
  let hexadecimal (digits : List Char) : Option (List Char × List Char) :=
    let number := digits.takeWhile fun c => (Link.hexValue? c).isSome
    if number.isEmpty then none
    else some (numbered (readHex number), (semicolon (digits.drop number.length)).2)
  match text with
  | '#' :: rest =>
    let number := rest.takeWhile Char.isDigit
    if number.length > Text.maxNumeralDigits then .error ⟨number.length⟩
    else if !number.isEmpty then
      .ok (some (numbered (Text.ofDigits 10 (number.filterMap Text.digitValue?)),
        (semicolon (rest.drop number.length)).2))
    else match rest with
      | 'x' :: digits => .ok (hexadecimal digits)
      | 'X' :: digits => .ok (hexadecimal digits)
      | _ => .ok none
  | _ =>
    let name := (text.takeWhile isNameChar).take 32
    if name.isEmpty then .ok none
    else
      let (ended, rest) := semicolon (text.drop name.length)
      .ok (some (namedText name ended, rest))

/-- Replaces the references of an attribute value; `fuel` bounds the number of characters. -/
def unescapeWithin : Nat → List Char → Except OverlongNumber (List Char)
  | 0, text => .ok text
  | _ + 1, [] => .ok []
  | fuel + 1, c :: rest =>
    if c == '&' then
      match reference rest with
      | .error error => .error error
      | .ok none => (unescapeWithin fuel rest).map ('&' :: ·)
      | .ok (some (chars, after)) => (unescapeWithin fuel after).map (chars ++ ·)
    else (unescapeWithin fuel rest).map (c :: ·)

def unescape (text : List Char) : Except OverlongNumber (List Char) :=
  unescapeWithin text.length text

end BoardMigration.Html
