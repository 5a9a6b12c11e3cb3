import BoardMigration.Date.Calendar
import BoardMigration.Date.Match
import BoardMigration.Text.Case
import BoardMigration.Text.Numeral

/-! Times as text, by a pattern of percent signs and letters. -/
namespace BoardMigration.Log

open Date

/-- A second of universal time. -/
structure Moment where
  day : Day
  second : Nat
  timestamp : Int
  deriving DecidableEq, Repr

namespace Moment

def ofTimestamp (timestamp : Int) : Moment where
  day := .ofOrdinal (timestamp / 86400 + (Day.mk 1970 1 1).toOrdinal).toNat
  second := (timestamp % 86400).toNat
  timestamp := timestamp

variable (m : Moment)

def hours : Nat := m.second / 3600

def minutes : Nat := m.second / 60 % 60

def seconds : Nat := m.second % 60

def halfHours : Nat := if m.hours % 12 == 0 then 12 else m.hours % 12

/-- Days of the year before this one. -/
def yearDays : Nat := daysBeforeMonth m.day.year m.day.month + m.day.day - 1

/-- Year and week of the ISO calendar, which are those of the week's Thursday. -/
def isoWeek : Nat × Nat :=
  let thursday := Day.ofOrdinal (m.day.toOrdinal + 3 - m.day.weekday)
  (thursday.year, (thursday.toOrdinal - daysBeforeYear thursday.year - 1) / 7 + 1)

end Moment

/-- How a number is filled up to its width. -/
inductive Fill where
  | none | blank | zero
  deriving DecidableEq, Repr

def fill (filling : Fill) (width n : Nat) : List Char :=
  let digits := Nat.toDigits 10 n
  match filling with
  | .none => digits
  | .blank => List.replicate (width - digits.length) ' ' ++ digits
  | .zero => List.replicate (width - digits.length) '0' ++ digits

/-- What a pattern says about the setting of one text: how it is filled up, and its least width. -/
structure Setting where
  filling : Option Fill := none
  width : Nat := 0
  deriving DecidableEq, Repr

namespace Setting

/-- Blanks come before a text that is too short, or zeros where the pattern asks for zeros. -/
def pad (s : Setting) (text : List Char) : List Char :=
  List.replicate (s.width - text.length) (if s.filling == some .zero then '0' else ' ') ++ text

def number (s : Setting) (usual : Fill) (digits n : Nat) : List Char :=
  s.pad (fill (s.filling.getD usual) (max digits s.width) n)

end Setting

/-- A number that a letter stands for, with its width and how it is filled up. -/
def numberOf (m : Moment) : Char → Option (Fill × Nat × Nat)
  | 'd' => some (.zero, 2, m.day.day)
  | 'e' => some (.blank, 2, m.day.day)
  | 'm' => some (.zero, 2, m.day.month)
  | 'y' => some (.zero, 2, m.day.year % 100)
  | 'Y' => some (.zero, 1, m.day.year)
  | 'C' => some (.zero, 1, m.day.year / 100)
  | 'G' => some (.zero, 1, m.isoWeek.1)
  | 'g' => some (.zero, 2, m.isoWeek.1 % 100)
  | 'V' => some (.zero, 2, m.isoWeek.2)
  | 'j' => some (.zero, 3, m.yearDays + 1)
  | 'U' => some (.zero, 2, (m.yearDays + 7 - (m.day.weekday + 1) % 7) / 7)
  | 'W' => some (.zero, 2, (m.yearDays + 7 - m.day.weekday) / 7)
  | 'u' => some (.zero, 1, m.day.weekday + 1)
  | 'w' => some (.zero, 1, (m.day.weekday + 1) % 7)
  | 'H' => some (.zero, 2, m.hours)
  | 'k' => some (.blank, 2, m.hours)
  | 'I' => some (.zero, 2, m.halfHours)
  | 'l' => some (.blank, 2, m.halfHours)
  | 'M' => some (.zero, 2, m.minutes)
  | 'S' => some (.zero, 2, m.seconds)
  | _ => none

def wordOf (m : Moment) : Char → Option String
  | 'a' => weekdayAbbreviations[m.day.weekday]?
  | 'A' => weekdayNames[m.day.weekday]?
  | 'b' => monthAbbreviations[m.day.month - 1]?
  | 'h' => monthAbbreviations[m.day.month - 1]?
  | 'B' => monthNames[m.day.month - 1]?
  | 'p' => some (if m.hours < 12 then "am" else "pm")
  | 'P' => some (if m.hours < 12 then "am" else "pm")
  | 's' => some (toString m.timestamp)
  | 'Z' => some "utc"
  | 'n' => some "\n"
  | 't' => some "\t"
  | '%' => some "%"
  | _ => none

def shorthand : Char → Option String
  | 'c' => some "%a %b %e %H:%M:%S %Y"
  | 'D' => some "%m/%d/%y"
  | 'x' => some "%m/%d/%y"
  | 'F' => some "%Y-%m-%d"
  | 'r' => some "%I:%M:%S %p"
  | 'R' => some "%H:%M"
  | 'T' => some "%H:%M:%S"
  | 'X' => some "%H:%M:%S"
  | _ => none

/-- The text of a letter that is no shorthand. The offset is a sign and a number, each set by itself. -/
def simple (m : Moment) (s : Setting) (letter : Char) : Option (List Char) :=
  match numberOf m letter with
  | some (usual, digits, n) => some (s.number usual digits n)
  | none =>
    if letter == 'z' then some (s.pad ['+'] ++ s.number .zero 4 0)
    else if letter == 'Z' && s.filling == some .none then (wordOf m letter).map String.toList
    else (wordOf m letter).map fun word => s.pad word.toList

def basic (m : Moment) : List Char → List Char
  | '%' :: c :: rest => (simple m {} c).getD ['%', c] ++ basic m rest
  | c :: rest => c :: basic m rest
  | [] => []

def expanded (m : Moment) (s : Setting) (letter : Char) : Option (List Char) :=
  match shorthand letter with
  | some pattern => some (s.pad (basic m pattern.toList))
  | none => simple m s letter

/-- Marks that change how a text is filled up. -/
def filling? : Char → Option Fill
  | '-' => some .none
  | '_' => some .blank
  | '0' => some .zero
  | _ => none

/-- Marks behind a percent sign; those for the case of letters change nothing in capitals. -/
def isMark (c : Char) : Bool := (filling? c).isSome || c == '^' || c == '#'

/-- Whether a letter may stand behind an `E` or an `O`, which ask for other eras and other digits. -/
def admits : Option Char → Char → Bool
  | none, _ => true
  | some 'E', letter => "cnprstuxyzCPRTXYZ%".contains letter
  | some _, letter => !"acxADFXY".contains letter

/-- The text of what stands behind a percent sign: marks, a width, perhaps a modifier, and a letter;
with it comes the rest of the pattern. What has no meaning stays as it is. -/
def directive (m : Moment) (text : List Char) : List Char × List Char :=
  let marks := text.takeWhile isMark
  let digits := (text.drop marks.length).takeWhile Char.isDigit
  let behind := text.drop (marks.length + digits.length)
  let setting : Setting :=
    ⟨(marks.filterMap filling?).getLast?, Text.ofDigits 10 (digits.filterMap Text.digitValue?)⟩
  let modifier := behind.head?.filter fun c => c == 'E' || c == 'O'
  let behind := behind.drop modifier.toList.length
  let written := '%' :: text.take (text.length - behind.length)
  match behind with
  | [] => (setting.pad written, [])
  | letter :: rest =>
    let meant := if admits modifier letter then expanded m setting letter else none
    (meant.getD (setting.pad (written ++ [letter])), rest)

/-- The text of a pattern; `fuel` bounds its length. -/
def pattern (m : Moment) : (fuel : Nat) → List Char → List Char
  | _, [] => []
  | 0, text => text
  | fuel + 1, '%' :: text =>
    let (shown, rest) := directive m text
    shown ++ pattern m fuel rest
  | fuel + 1, c :: rest => c :: pattern m fuel rest

/-- A text must be shorter than this: the least power of two, from 1024 up, that is not below 256 times
the length of its pattern. -/
def room (length : Nat) : Nat := max 1024 (256 * length).nextPowerOfTwo

/-- A time in capitals; one that is too long is left out. -/
def capitals (m : Moment) (format : String) : String :=
  let text := pattern m format.length format.toList
  if text.length < room format.length then Text.upper (String.ofList text) else ""

/-- Date, time and thousandths of a second. -/
def plainStamp (m : Moment) (thousandths : Nat) : String :=
  String.ofList (basic m "%Y-%m-%d %H:%M:%S".toList ++ ',' :: fill .zero 3 thousandths)

end BoardMigration.Log
