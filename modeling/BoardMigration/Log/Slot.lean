import BoardMigration.Text.Numeral
import BoardMigration.Text.Quoted

/-! Slots of a layout: a part of an entry, how wide it is set and how its value is written. -/
namespace BoardMigration.Log

/-- What an entry holds under a name. -/
inductive PartValue where
  | text (content : String)
  | number (n : Int)
  deriving DecidableEq, Repr

/-- `%(name)` with flags, a width, a precision behind a period, and the letter of the way of writing. -/
structure Slot where
  name : String
  flags : List Char := []
  width : Nat := 0
  precision : Option Nat := none
  letter : Char
  deriving DecidableEq, Repr

inductive LayoutError where
  | withoutSlot (layout : String)
  | unknownPart (name : String)
  | unknownLetter (letter : Char) (position : Nat)
  | unfinishedName
  | unfinished
  | textAsNumber (letter : Char)
  | textAsReal
  | textAsCharacter
  deriving DecidableEq, Repr

def LayoutError.message : LayoutError → String
  | .withoutSlot layout => s!"Invalid format '{layout}' for '%' style"
  | .unknownPart name => s!"Formatting field not found in record: {Text.quoted name}"
  | .unknownLetter letter position =>
    let code := String.ofList (Nat.toDigits 16 letter.toNat)
    let shown := if 31 ≤ letter.toNat && letter.toNat < 127 then letter else '?'
    s!"unsupported format character '{shown}' (0x{code}) at index {position}"
  | .unfinishedName => "incomplete format key"
  | .unfinished => "incomplete format"
  | .textAsNumber letter =>
    let wanted := if letter == 'x' || letter == 'X' || letter == 'o' then "an integer" else "a real number"
    s!"%{letter} format: {wanted} is required, not str"
  | .textAsReal => "must be real number, not str"
  | .textAsCharacter => "%c requires int or char"

namespace Slot

variable (slot : Slot)

def has (flag : Char) : Bool := slot.flags.contains flag

/-- Fills a value up to the width of the slot: behind it with a minus flag, else before it, and with
zeros behind the sign of a number that has the flag for zeros. -/
def pad (sign body : String) (numeric : Bool) : String :=
  let gap (c : Char) : String :=
    String.ofList (List.replicate (slot.width - (sign.length + body.length)) c)
  if slot.has '-' then sign ++ body ++ gap ' '
  else if numeric && slot.has '0' then sign ++ gap '0' ++ body
  else gap ' ' ++ sign ++ body

def setText (text : String) : String :=
  slot.pad "" (String.ofList (text.toList.take (slot.precision.getD text.length))) false

def sign (n : Int) : String :=
  if n < 0 then "-" else if slot.has '+' then "+" else if slot.has ' ' then " " else ""

/-- An integer in a base, with at least as many digits as the precision says. -/
def setNumber (n : Int) (base : Nat) (mark : String) : String :=
  let digits := Nat.toDigits base n.natAbs
  let body := String.ofList (List.replicate (slot.precision.getD 0 - digits.length) '0' ++ digits)
  slot.pad (slot.sign n ++ (if slot.has '#' then mark else "")) body true

/-- An integer with as many decimals as the precision says, six without one. -/
def setDecimals (n : Int) : String :=
  let places := slot.precision.getD 6
  let point := if places == 0 && !slot.has '#' then "" else "."
  slot.pad (slot.sign n) (toString n.natAbs ++ point ++ String.ofList (List.replicate places '0')) true

def set (value : PartValue) : Except LayoutError String :=
  match slot.letter, value with
  | '%', _ => .ok "%"
  | 's', .text content => .ok (slot.setText content)
  | 's', .number n => .ok (slot.setText (toString n))
  | 'r', .text content => .ok (slot.setText (Text.quoted content))
  | 'r', .number n => .ok (slot.setText (toString n))
  | 'c', .text content => if content.length == 1 then .ok (slot.setText content) else .error .textAsCharacter
  | 'c', .number n => .ok (slot.setText (Char.ofNat n.toNat).toString)
  | 'x', .number n => .ok (slot.setNumber n 16 "0x")
  | 'X', .number n =>
    let digits := slot.setNumber n 16 "0X"
    .ok (digits.map Char.toUpper)
  | 'o', .number n => .ok (slot.setNumber n 8 "0o")
  | 'f', .number n => .ok (slot.setDecimals n)
  | 'F', .number n => .ok (slot.setDecimals n)
  | 'f', .text _ => .error .textAsReal
  | 'F', .text _ => .error .textAsReal
  | _, .number n => .ok (slot.setNumber n 10 "")
  | letter, .text _ => .error (.textAsNumber letter)

def isFlag (c : Char) : Bool := ['-', '+', ' ', '#', '0'].contains c

def letters : List Char := ['d', 'i', 'u', 'o', 'x', 'X', 'f', 'F', 'c', 'r', 's', '%']

/-- Value of the digits a text begins with, and the text behind them. -/
def leadingNumber (text : List Char) : Nat × List Char :=
  let digits := text.takeWhile Char.isDigit
  (Text.ofDigits 10 (digits.filterMap Text.digitValue?), text.drop digits.length)

/-- A slot without its percent sign and opening bracket, and the text behind it. The letter need not
be a known one. -/
def read (text : List Char) : Except LayoutError (Slot × List Char) :=
  let name := text.takeWhile (· != ')')
  if name.length == text.length then .error .unfinishedName
  else
    let behind := text.drop (name.length + 1)
    let flags := behind.takeWhile isFlag
    let (width, behind) := leadingNumber (behind.drop flags.length)
    let (precision, behind) :=
      match behind with
      | '.' :: rest =>
        let (n, rest) := leadingNumber rest
        (some n, rest)
      | _ => (none, behind)
    match behind with
    | [] => .error .unfinished
    | letter :: rest => .ok (⟨String.ofList name, flags, width, precision, letter⟩, rest)

end Slot
end BoardMigration.Log
