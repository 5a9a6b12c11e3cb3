import BoardMigration.Text.Blank
import BoardMigration.Text.Digit

/-! Reading integers the way a person writes them: an optional sign, digits of any script, single
underscores between digits, and spaces around the whole. -/
namespace BoardMigration.Text

/-- Longer numerals are refused. -/
def maxNumeralDigits : Nat := 4300

/-- Spaces that may surround a numeral; the information separators may not. -/
def isNumeralSpace (c : Char) : Bool := isBlank c && !(28 ≤ c.toNat && c.toNat ≤ 31)

/-- Digit values of a digit group, where an underscore must stand between two digits. -/
def digitGroup? : List Char → Option (List Nat)
  | [] => none
  | [c] => (digitValue? c).map ([·])
  | c :: d :: rest =>
    if d == '_' then
      match digitValue? c, digitGroup? rest with
      | some v, some vs => some (v :: vs)
      | _, _ => none
    else
      match digitValue? c, digitGroup? (d :: rest) with
      | some v, some vs => some (v :: vs)
      | _, _ => none

/-- Value of a sequence of digits, most significant first. -/
def ofDigits (base : Nat) (digits : List Nat) : Nat :=
  digits.foldl (fun value digit => base * value + digit) 0

def readMagnitude? (text : List Char) : Option Nat :=
  match digitGroup? text with
  | some digits => if digits.length ≤ maxNumeralDigits then some (ofDigits 10 digits) else none
  | none => none

def readInt? (text : List Char) : Option Int :=
  match trim isNumeralSpace text with
  | '-' :: rest => (readMagnitude? rest).map (- Int.ofNat ·)
  | '+' :: rest => (readMagnitude? rest).map Int.ofNat
  | rest => (readMagnitude? rest).map Int.ofNat

end BoardMigration.Text
