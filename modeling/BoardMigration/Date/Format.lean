import BoardMigration.Text.Blank

/-! Date formats. A percent sign and a letter stand for a field, a run of blanks for one or more
blanks, and any other character for itself. A field may occur once. -/
namespace BoardMigration.Date

/-- What a format can ask for, by the meaning of its letter. -/
inductive Field where
  | day | month | year | shortYear | yearDay
  | monthName | monthAbbreviation | weekdayName | weekdayAbbreviation
  | hour | halfDayHour | halfDay | minute | second | fraction
  | weekdayFromSunday | weekdayFromMonday | sundayWeek | mondayWeek | isoYear | isoWeek
  | offset | zone
  deriving DecidableEq, Repr

namespace Field

def letters : List (Field × Char) := [
  (.day, 'd'), (.month, 'm'), (.year, 'Y'), (.shortYear, 'y'), (.yearDay, 'j'),
  (.monthName, 'B'), (.monthAbbreviation, 'b'), (.weekdayName, 'A'), (.weekdayAbbreviation, 'a'),
  (.hour, 'H'), (.halfDayHour, 'I'), (.halfDay, 'p'), (.minute, 'M'), (.second, 'S'),
  (.fraction, 'f'), (.weekdayFromSunday, 'w'), (.weekdayFromMonday, 'u'), (.sundayWeek, 'U'),
  (.mondayWeek, 'W'), (.isoYear, 'G'), (.isoWeek, 'V'), (.offset, 'z'), (.zone, 'Z')]

def ofLetter? (letter : Char) : Option Field := (letters.find? (·.2 == letter)).map (·.1)

def letter (field : Field) : Char := ((letters.find? (·.1 == field)).map (·.2)).getD '%'

end Field

inductive Piece where
  | char (c : Char)
  | blanks
  | field (field : Field)
  deriving DecidableEq, Repr

inductive FormatError where
  /-- A percent sign ends the format. -/
  | stray
  | unknown (letter : Char)
  | repeated (field : Field)
  deriving DecidableEq, Repr

/-- Characters a percent sign cannot be attached to: it is then reported itself. -/
def detaches (c : Char) : Bool := Text.isBlank c || "\\.^$*+?()\x7b\x7d[]|".toList.contains c

def clock : List Piece :=
  [.field .hour, .char ':', .field .minute, .char ':', .field .second]

def calendar : List Piece :=
  [.field .month, .char '/', .field .day, .char '/', .field .shortYear]

/-- What a percent sign and a letter stand for; three letters abbreviate several pieces. -/
def directive (letter : Char) : Except FormatError (List Piece) :=
  if letter == '%' then .ok [.char '%']
  else if letter == 'X' then .ok clock
  else if letter == 'x' then .ok calendar
  else if letter == 'c' then
    .ok ([.field .weekdayAbbreviation, .blanks, .field .monthAbbreviation, .blanks, .field .day,
      .blanks] ++ clock ++ [.blanks, .field .year])
  else if detaches letter then .error (.unknown '%')
  else match Field.ofLetter? letter with
    | some field => .ok [.field field]
    | none => .error (.unknown letter)

def pieces : List Char → Except FormatError (List Piece)
  | [] => .ok []
  | ['%'] => .error .stray
  | '%' :: letter :: rest =>
    match directive letter, pieces rest with
    | .error error, _ => .error error
    | .ok _, .error error => .error error
    | .ok first, .ok more => .ok (first ++ more)
  | c :: rest =>
    match pieces rest with
    | .error error => .error error
    | .ok more =>
      if !Text.isBlank c then .ok (.char c :: more)
      else if rest.head?.any Text.isBlank then .ok more
      else .ok (.blanks :: more)

/-- The first field that occurs a second time. -/
def repeated? (seen : List Field) : List Piece → Option Field
  | [] => none
  | .field field :: rest => if seen.contains field then some field else repeated? (field :: seen) rest
  | _ :: rest => repeated? seen rest

def readFormat (format : String) : Except FormatError (List Piece) :=
  match pieces format.toList with
  | .error error => .error error
  | .ok parts =>
    match repeated? [] parts with
    | some field => .error (.repeated field)
    | none => .ok parts

/-- How boards write dates unless told otherwise. -/
def defaultFormat : String := "%Y-%m-%d %H:%M:%S"

end BoardMigration.Date
