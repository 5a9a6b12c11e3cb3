import BoardMigration.Date.Calendar
import BoardMigration.Date.Match
import BoardMigration.Text.Numeral
import BoardMigration.Text.Quoted

/-! Dates to seconds since the start of 1970. Boards show no time zone, so a date is taken as UTC
and an offset, though read, does not move it. -/
namespace BoardMigration.Date

inductive DateError where
  | format (error : FormatError)
  | mismatch
  | unconverted (rest : String)
  /-- A name that matched only by ignoring case, and is no name of the calendar. -/
  | unlisted (name : String)
  | notANumber (text : String)
  | inconsistentColons (offset : String)
  | isoYearWithoutWeek
  | isoYearWithYearDay
  | isoWeekWithoutWeekday
  | isoWeekWithYear
  | yearOutOfRange (year : Nat)
  | dayOutOfRange
  | offsetOutOfRange (microseconds : Int)
  | secondOutOfRange
  deriving DecidableEq, Repr

/-- What the captures say, with the values of an unmentioned date. -/
structure Reading where
  year : Option Nat := none
  month : Nat := 1
  day : Nat := 1
  hour : Nat := 0
  minute : Nat := 0
  second : Nat := 0
  microsecond : Nat := 0
  /-- Days after Monday. -/
  weekday : Option Nat := none
  yearDay : Option Nat := none
  /-- Week of the year, and whether weeks start on Monday rather than Sunday. -/
  week : Option (Nat × Bool) := none
  isoYear : Option Nat := none
  isoWeek : Option Nat := none
  /-- Offset in microseconds. -/
  offset : Option Int := none

def numeral (text : List Char) : Nat := Text.ofDigits 10 (text.filterMap Text.digitValue?)

/-- Place of a name in a list, whatever its case. -/
def place (names : List String) (text : List Char) : Except DateError Nat :=
  let name := Text.lower (String.ofList text)
  match names.findIdx? (· == name) with
  | some index => .ok index
  | none => .error (.unlisted name)

def millionths (digits : List Char) : Nat := numeral digits * Nat.pow 10 (6 - digits.length)

/-- Offset in microseconds. A colon before the minutes calls for one before the seconds, and none
for none. -/
def readOffset (text : List Char) : Except DateError Int :=
  match text with
  | sign :: h :: h' :: rest =>
    let tail : Except DateError (List Char) :=
      match rest with
      | ':' :: m :: m' :: [] => .ok [m, m']
      | ':' :: m :: m' :: ':' :: more => .ok (m :: m' :: more)
      | ':' :: _ => .error (.inconsistentColons (String.ofList text))
      | _ => .ok rest
    match tail with
    | .error error => .error error
    | .ok digits =>
      let seconds := (digits.drop 2).take 2
      if seconds.contains ':' then .error (.notANumber (String.ofList seconds))
      else
        let whole := 3600 * numeral [h, h'] + 60 * numeral (digits.take 2) + numeral seconds
        let total : Int := 1000000 * whole + millionths (digits.drop 5)
        .ok (if sign == '-' then -total else total)
  | _ => .ok 0

/-- An hour of the twelve-hour clock; without a half of the day it is before noon. -/
def fromHalfDay (hour : Nat) (half : List Char) : Nat :=
  if Text.lower (String.ofList half) == "pm" then (if hour == 12 then 12 else hour + 12)
  else if hour == 12 then 0 else hour

/-- Takes one capture in; `half` is the half of the day the text names, if any. -/
def Reading.take (half : List Char) (r : Reading) : Capture → Except DateError Reading
  | (.year, t) => .ok { r with year := some (numeral t) }
  | (.shortYear, t) =>
    .ok { r with year := some (if numeral t ≤ 68 then 2000 + numeral t else 1900 + numeral t) }
  | (.month, t) => .ok { r with month := numeral t }
  | (.monthName, t) => (place monthNames t).map fun index => { r with month := index + 1 }
  | (.monthAbbreviation, t) =>
    (place monthAbbreviations t).map fun index => { r with month := index + 1 }
  | (.day, t) => .ok { r with day := numeral t }
  | (.yearDay, t) => .ok { r with yearDay := some (numeral t) }
  | (.hour, t) => .ok { r with hour := numeral t }
  | (.halfDayHour, t) => .ok { r with hour := fromHalfDay (numeral t) half }
  | (.minute, t) => .ok { r with minute := numeral t }
  | (.second, t) => .ok { r with second := numeral t }
  | (.fraction, t) => .ok { r with microsecond := millionths t }
  | (.weekdayName, t) => (place weekdayNames t).map fun index => { r with weekday := some index }
  | (.weekdayAbbreviation, t) =>
    (place weekdayAbbreviations t).map fun index => { r with weekday := some index }
  | (.weekdayFromSunday, t) => .ok { r with weekday := some ((numeral t + 6) % 7) }
  | (.weekdayFromMonday, t) => .ok { r with weekday := some (numeral t - 1) }
  | (.sundayWeek, t) => .ok { r with week := some (numeral t, false) }
  | (.mondayWeek, t) => .ok { r with week := some (numeral t, true) }
  | (.isoYear, t) => .ok { r with isoYear := some (numeral t) }
  | (.isoWeek, t) => .ok { r with isoWeek := some (numeral t) }
  | (.offset, t) => (readOffset t).map fun offset => { r with offset := some offset }
  | (.halfDay, _) => .ok r
  | (.zone, _) => .ok r

def readCaptures (captures : List Capture) : Except DateError Reading :=
  let half := ((captures.find? (·.1 == .halfDay)).map (·.2)).getD []
  captures.foldlM (Reading.take half) {}

/-- An ISO year needs an ISO week and a weekday, an ISO week needs an ISO year. -/
def Reading.checkIso (r : Reading) : Except DateError Unit :=
  if r.isoYear.isSome then
    if r.isoWeek.isNone || r.weekday.isNone then .error .isoYearWithoutWeek
    else if r.yearDay.isSome then .error .isoYearWithYearDay
    else .ok ()
  else if r.week.isNone && r.isoWeek.isSome then
    if r.weekday.isNone then .error .isoWeekWithoutWeekday else .error .isoWeekWithYear
  else .ok ()

def checkYear (year : Nat) : Except DateError Unit :=
  if 1 ≤ year ∧ year ≤ Day.maxYear then .ok () else .error (.yearOutOfRange year)

def checkDay (d : Day) : Except DateError Unit :=
  match checkYear d.year with
  | .error error => .error error
  | .ok () => if d.Valid then .ok () else .error .dayOutOfRange

/-- Day of the year of a weekday in a week that is counted from the first Monday or Sunday; days
before it are in week 0. -/
def yearDayOfWeek (year week weekday : Nat) (fromMonday : Bool) : Int :=
  let first := (Day.mk year 1 1).weekday
  let (first, weekday) := if fromMonday then (first, weekday) else ((first + 1) % 7, (weekday + 1) % 7)
  if week == 0 then 1 + weekday - first
  else 1 + ((7 - first) % 7 : Nat) + 7 * ((week : Int) - 1) + weekday

/-- Year and day of the year of a weekday in an ISO week; week 1 holds the fourth of January. -/
def yearDayOfIsoWeek (isoYear week weekday : Nat) : Except DateError (Nat × Int) :=
  match checkYear isoYear with
  | .error error => .error error
  | .ok () =>
    let shift := (Day.mk isoYear 1 4).weekday + 4
    let ordinal : Int := week * 7 + (weekday + 1) - shift
    if 1 ≤ ordinal then .ok (isoYear, ordinal)
    else match checkYear (isoYear - 1) with
      | .error error => .error error
      | .ok () => .ok (isoYear - 1, ordinal + yearLength (isoYear - 1))

/-- The day of the year that the text names or that week and weekday make, with its year. A day
before the first of January lies in the year before. -/
def Reading.findYearDay (r : Reading) (year : Nat) : Except DateError (Nat × Option Int) :=
  match r.yearDay with
  | some n => .ok (year, some n)
  | none =>
    let found : Except DateError (Nat × Option Int) :=
      match r.weekday, r.week, r.isoYear, r.isoWeek with
      | some weekday, some (week, fromMonday), _, _ =>
        (checkYear year).map fun _ => (year, some (yearDayOfWeek year week weekday fromMonday))
      | some weekday, none, some isoYear, some isoWeek =>
        (yearDayOfIsoWeek isoYear isoWeek weekday).map fun (year, n) => (year, some n)
      | _, _, _, _ => .ok (year, none)
    match found with
    | .ok (year, some n) =>
      if 1 ≤ n then .ok (year, some n) else .ok (year - 1, some (n + yearLength (year - 1)))
    | other => other

/-- The first leap year of its century stands in for a missing year when the day is the twenty-ninth
of February. -/
def Reading.assumedYear (r : Reading) : Nat :=
  r.year.getD (if r.month == 2 && r.day == 29 then 1904 else 1900)

/-- The day a reading means. A year that was assumed for a leap day is 1900 in the end. -/
def Reading.toDay (r : Reading) : Except DateError Day :=
  match r.findYearDay r.assumedYear with
  | .error error => .error error
  | .ok (year, yearDay) =>
    let day : Except DateError Day :=
      match yearDay with
      | none => (checkDay ⟨year, r.month, r.day⟩).map fun _ => ⟨year, r.month, r.day⟩
      | some n =>
        match checkYear year with
        | .error error => .error error
        | .ok () =>
          let found := Day.ofOrdinal (daysBeforeYear year + n.toNat)
          (checkYear found.year).map fun _ => found
    day.map fun d => if r.year.isNone && r.assumedYear == 1904 then { d with year := 1900 } else d

def dayMicroseconds : Int := 86400000000

/-- An offset is less than a day either way. -/
def Reading.checkOffset (r : Reading) : Except DateError Unit :=
  match r.offset with
  | none => .ok ()
  | some offset =>
    if -dayMicroseconds < offset ∧ offset < dayMicroseconds then .ok ()
    else .error (.offsetOutOfRange offset)

def epoch : Day := ⟨1970, 1, 1⟩

/-- Whole seconds of a count of microseconds, after rounding it to 53 binary places and dropping
the fraction. -/
def wholeSeconds (microseconds : Nat) : Nat :=
  let whole := microseconds / 1000000
  if microseconds % 1000000 == 0 || whole == 0 then whole
  else
    let scale := Nat.pow 2 (52 - whole.log2)
    let scaled := microseconds * scale
    let (quotient, rest) := (scaled / 1000000, scaled % 1000000)
    let up := 2 * rest > 1000000 || (2 * rest == 1000000 && quotient % 2 == 1)
    (if up then quotient + 1 else quotient) / scale

def Reading.timestamp (r : Reading) (d : Day) : Int :=
  let days : Int := (d.toOrdinal : Int) - epoch.toOrdinal
  let seconds := 86400 * days + (3600 * r.hour + 60 * r.minute + r.second : Nat)
  if r.microsecond == 0 then seconds
  else
    let exact := 1000000 * seconds + r.microsecond
    if 0 ≤ exact then wholeSeconds exact.toNat else - (wholeSeconds (-exact).toNat : Int)

def Reading.toTimestamp (r : Reading) : Except DateError Int := do
  r.checkIso
  let d ← r.toDay
  r.checkOffset
  checkDay d
  if r.second ≤ 59 then pure (r.timestamp d) else throw .secondOutOfRange

def readCollapsed (text : List Char) (format : String) : Except DateError Int :=
  match readFormat format with
  | .error error => .error (.format error)
  | .ok parts =>
    match matchPieces parts text with
    | none => .error .mismatch
    | some (captures, []) => (readCaptures captures).bind Reading.toTimestamp
    | some (_, rest) => .error (.unconverted (String.ofList rest))

/-- Seconds since the start of 1970 of a date in the given format. -/
def read (text format : String) : Except DateError Int :=
  readCollapsed (Text.collapse text.toList) format

/-- Days, seconds and microseconds of a span, the last two not negative; zero parts are left out. -/
def spanText (microseconds : Int) : String :=
  let days := microseconds.fdiv dayMicroseconds
  let rest := microseconds.fmod dayMicroseconds
  let parts : List (String × Int) :=
    [("days", days), ("seconds", rest / 1000000), ("microseconds", rest % 1000000)]
  ", ".intercalate ((parts.filter (·.2 != 0)).map fun (unit, n) => unit ++ "=" ++ toString n)

def FormatError.message (format : String) : FormatError → String
  | .stray => s!"stray % in format '{format}'"
  | .unknown letter => s!"'{letter}' is a bad directive in format '{format}'"
  | .repeated field => s!"redefinition of group name '{field.letter}'"

def weekdayHint : String := "directive ('%A', '%a', '%w', or '%u')."

def DateError.message (text format : String) : DateError → String
  | .format error => error.message format
  | .mismatch =>
    let shown := Text.quoted (String.ofList (Text.collapse text.toList))
    s!"time data {shown} does not match format {Text.quoted format}"
  | .unconverted rest => s!"unconverted data remains: {rest}"
  | .unlisted name => s!"{Text.quoted name} is not in list"
  | .notANumber digits => s!"invalid literal for int() with base 10: {Text.quoted digits}"
  | .inconsistentColons offset => s!"Inconsistent use of : in {offset}"
  | .isoYearWithoutWeek =>
    "ISO year directive '%G' must be used with the ISO week directive '%V' and a weekday " ++ weekdayHint
  | .isoYearWithYearDay =>
    "Day of the year directive '%j' is not compatible with ISO year directive '%G'. " ++
      "Use '%Y' instead."
  | .isoWeekWithoutWeekday =>
    "ISO week directive '%V' must be used with the ISO year directive '%G' and a weekday " ++ weekdayHint
  | .isoWeekWithYear =>
    "ISO week directive '%V' is incompatible with the year directive '%Y'. Use the ISO year '%G' " ++
      "instead."
  | .yearOutOfRange year => s!"year {year} is out of range"
  | .dayOutOfRange => "day is out of range for month"
  | .offsetOutOfRange span =>
    "offset must be a timedelta strictly between -timedelta(hours=24) and timedelta(hours=24), " ++
      s!"not datetime.timedelta({spanText span})."
  | .secondOutOfRange => "second must be in 0..59"

end BoardMigration.Date
