import BoardMigration.Date.Format
import BoardMigration.Text.Case
import BoardMigration.Text.Digit

/-! Matching a text against a format. Each field has a list of spellings in order of preference; the
first combination of spellings that lets all pieces match wins. -/
namespace BoardMigration.Date

/-- What may stand in one place of a spelling. -/
abbrev Place := Char → Bool

def within (first last : Char) : Place := fun c => first ≤ c && c ≤ last

def digit : Place := Text.isDigit

def monthNames : List String := ["january", "february", "march", "april", "may", "june", "july",
  "august", "september", "october", "november", "december"]

def monthAbbreviations : List String :=
  ["jan", "feb", "mar", "apr", "may", "jun", "jul", "aug", "sep", "oct", "nov", "dec"]

def weekdayNames : List String :=
  ["monday", "tuesday", "wednesday", "thursday", "friday", "saturday", "sunday"]

def weekdayAbbreviations : List String := ["mon", "tue", "wed", "thu", "fri", "sat", "sun"]

/-- Upper and lower case count alike in names. -/
def named (names : List String) : List (List Place) := names.map fun name => name.toList.map Text.alike

/-- Six digits down to one. -/
def fractions (place : Place) : List (List Place) :=
  [6, 5, 4, 3, 2, 1].map fun count => List.replicate count place

/-- Sign, hours and minutes, then perhaps seconds, then perhaps a fraction; colons are optional. -/
def offsets : List (List Place) :=
  let colon : List (List Place) := [[(· == ':')], []]
  let sixty : List Place := [within '0' '5', digit]
  let points : List (List Place) := (fractions digit).map ((· == '.') :: ·) ++ [[]]
  let seconds := (colon.flatMap fun mark => points.map fun point => mark ++ sixty ++ point) ++ [[]]
  (colon.flatMap fun mark => seconds.map fun tail =>
    [fun c => c == '+' || c == '-', digit, digit] ++ mark ++ sixty ++ tail) ++ [[(· == 'Z')]]

def Field.spellings : Field → List (List Place)
  | .day => [[(· == '3'), within '0' '1'], [within '1' '2', digit], [(· == '0'), within '1' '9'],
      [within '1' '9'], [(· == ' '), within '1' '9']]
  | .month => [[(· == '1'), within '0' '2'], [(· == '0'), within '1' '9'], [within '1' '9']]
  | .year => [[digit, digit, digit, digit]]
  | .shortYear => [[digit, digit]]
  | .yearDay => [[(· == '3'), (· == '6'), within '0' '6'], [(· == '3'), within '0' '5', digit],
      [within '1' '2', digit, digit], [(· == '0'), within '1' '9', digit],
      [(· == '0'), (· == '0'), within '1' '9'], [within '1' '9', digit],
      [(· == '0'), within '1' '9'], [within '1' '9']]
  | .monthName => named monthNames
  | .monthAbbreviation => named monthAbbreviations
  | .weekdayName => named weekdayNames
  | .weekdayAbbreviation => named weekdayAbbreviations
  | .hour => [[(· == '2'), within '0' '3'], [within '0' '1', digit], [digit]]
  | .halfDayHour => [[(· == '1'), within '0' '2'], [(· == '0'), within '1' '9'], [within '1' '9']]
  | .halfDay => named ["am", "pm"]
  | .minute => [[within '0' '5', digit], [digit]]
  | .second => [[(· == '6'), within '0' '1'], [within '0' '5', digit], [digit]]
  | .fraction => fractions (within '0' '9')
  | .weekdayFromSunday => [[within '0' '6']]
  | .weekdayFromMonday => [[within '1' '7']]
  | .sundayWeek => [[(· == '5'), within '0' '3'], [within '0' '4', digit], [digit]]
  | .mondayWeek => [[(· == '5'), within '0' '3'], [within '0' '4', digit], [digit]]
  | .isoYear => [[digit, digit, digit, digit]]
  | .isoWeek => [[(· == '5'), within '0' '3'], [(· == '0'), within '1' '9'], [within '1' '4', digit],
      [digit]]
  | .offset => offsets
  | .zone => named ["utc", "gmt"]

/-- The characters of a text that fill the places, and what follows them. -/
def fill? : List Place → List Char → Option (List Char × List Char)
  | [], text => some ([], text)
  | _ :: _, [] => none
  | place :: places, c :: rest =>
    if place c then (fill? places rest).map fun (taken, left) => (c :: taken, left) else none

/-- Where one or more blanks may end, the longest run first. -/
def afterBlanks : List Char → List (List Char)
  | [] => []
  | c :: rest => if Text.isBlank c then afterBlanks rest ++ [rest] else []

/-- A field with the text that fills it. -/
abbrev Capture := Field × List Char

/-- Captures in the format's order and the text left over. -/
def matchPieces : List Piece → List Char → Option (List Capture × List Char)
  | [], text => some ([], text)
  | .char c :: rest, text =>
    match text with
    | [] => none
    | d :: left => if Text.alike c d then matchPieces rest left else none
  | .blanks :: rest, text => (afterBlanks text).findSome? fun left => matchPieces rest left
  | .field field :: rest, text =>
    field.spellings.findSome? fun spelling =>
      match fill? spelling text with
      | none => none
      | some (taken, left) =>
        match matchPieces rest left with
        | none => none
        | some (captures, final) => some ((field, taken) :: captures, final)

end BoardMigration.Date
