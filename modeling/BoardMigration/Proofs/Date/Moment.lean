import BoardMigration.Proofs.Date.Calendar
import BoardMigration.Date.Read
import BoardMigration.Proofs.Text.Numeral
import BoardMigration.Proofs.Text.Words

/-! Dates to the second, written in the usual format, are read as the seconds they are away from the start of
1970. -/
namespace BoardMigration.Date

structure Moment where
  day : Day
  hour : Nat
  minute : Nat
  second : Nat
  deriving DecidableEq, Repr

/-- A number in decimal, with zeros in front of it up to a width. -/
def padded (width n : Nat) : List Char := (Nat.toDigits 10 n).leftpad width '0'

namespace Moment

structure Valid (m : Moment) : Prop where
  day : m.day.Valid
  hour : m.hour < 24
  minute : m.minute < 60
  second : m.second < 60

def dateText (d : Day) : List Char := padded 4 d.year ++ '-' :: (padded 2 d.month ++ '-' :: padded 2 d.day)

def clockText (m : Moment) : List Char := padded 2 m.hour ++ ':' :: (padded 2 m.minute ++ ':' :: padded 2 m.second)

def chars (m : Moment) : List Char := dateText m.day ++ ' ' :: clockText m

/-- As in `2008-01-03 11:00:00`. -/
def text (m : Moment) : String := String.ofList m.chars

/-- Seconds since the start of 1970. -/
def timestamp (m : Moment) : Int :=
  86400 * ((m.day.elapsed : Int) - epoch.elapsed) + (3600 * m.hour + 60 * m.minute + m.second : Nat)

end Moment

theorem isDigit_padded (width n : Nat) : ∀ c ∈ padded width n, c.isDigit = true := by
  intro c member
  rcases List.mem_append.mp member with zero | digit
  · rw [(List.mem_replicate.mp zero).2]
    rfl
  · exact Nat.isDigit_of_mem_toDigits (by decide) (by decide) digit

theorem length_padded {width n : Nat} (some : 0 < width) (fits : n < Nat.pow 10 width) :
    (padded width n).length = width := by
  have short : (Nat.toDigits 10 n).length ≤ width := (Nat.length_toDigits_le_iff (by decide) some).mpr fits
  rw [padded, List.length_leftpad]
  omega

theorem solid_padded (width n : Nat) : ∀ c ∈ padded width n, Text.isBlank c = false :=
  fun c member => Text.IsNumeral.solid (.inr (isDigit_padded width n c member))

theorem head?_padded (n : Nat) {width : Nat} (some : 0 < width) (left : List Char) :
    (padded width n ++ left).head?.any Text.isBlank = false := by
  have filled : padded width n ≠ [] := by
    rw [← List.length_pos_iff, padded, List.length_leftpad]
    omega
  obtain ⟨d, behind, same⟩ := List.exists_cons_of_ne_nil filled
  have solid := solid_padded width n d (same ▸ List.mem_cons_self)
  simpa [same] using solid

theorem numeral_padded (width n : Nat) : numeral (padded width n) = n := by
  have values : ∀ text : List Char, (∀ c ∈ text, c.isDigit = true) →
      text.filterMap Text.digitValue? = text.map (·.toNat - 48) := by
    intro text digits
    rw [← List.filterMap_eq_map]
    exact List.filterMap_congr fun c member => Text.digitValue?_of_isDigit (digits c member)
  rw [numeral, values _ (isDigit_padded width n), Text.ofDigits_digits, padded, List.leftpad,
    Nat.ofDigitChars_append, Nat.ofDigitChars_replicate_zero, Nat.mul_zero, Nat.ofDigitChars_ten_toDigits]

theorem fill?_append {places : List Place} {text taken rest : List Char} (left : List Char)
    (filled : fill? places text = some (taken, rest)) : fill? places (text ++ left) = some (taken, rest ++ left) := by
  induction places generalizing text taken with
  | nil =>
    cases filled
    rfl
  | cons place places ih =>
    cases text with
    | nil => cases filled
    | cons c text =>
      simp only [fill?, List.cons_append] at filled ⊢
      split at filled
      case isFalse => cases filled
      obtain ⟨⟨later, behind⟩, found, same⟩ := Option.map_eq_some_iff.mp filled
      cases same
      rw [ih found]
      simp [*]

theorem fill?_append_none {places : List Place} {text : List Char} (left : List Char)
    (enough : places.length ≤ text.length) (unfilled : fill? places text = none) :
    fill? places (text ++ left) = none := by
  induction places generalizing text with
  | nil => cases unfilled
  | cons place places ih =>
    cases text with
    | nil => cases enough
    | cons c text =>
      simp only [fill?, List.cons_append] at unfilled ⊢
      split at unfilled
      case isFalse other => simp [other]
      rw [ih (Nat.le_of_succ_le_succ enough) (Option.map_eq_none_iff.mp unfilled)]
      simp

/-- What the first spelling of a field that fits takes of a text. -/
def fit? (field : Field) (text : List Char) : Option (List Char × List Char) :=
  field.spellings.findSome? (fill? · text)

/-- A field takes a text whole, whatever follows. -/
theorem fit?_append {field : Field} {text : List Char} (left : List Char)
    (enough : ∀ spelling ∈ field.spellings, spelling.length ≤ text.length)
    (fits : fit? field text = some (text, [])) : fit? field (text ++ left) = some (text, left) := by
  unfold fit? at fits ⊢
  generalize field.spellings = spellings at *
  induction spellings with
  | nil => cases fits
  | cons spelling rest ih =>
    rw [List.forall_mem_cons] at enough
    rw [List.findSome?_cons] at fits ⊢
    cases filled : fill? spelling text with
    | none =>
      rw [filled] at fits
      rw [fill?_append_none left enough.1 filled]
      exact ih enough.2 fits
    | some taken =>
      rw [filled] at fits
      obtain rfl := Option.some.inj fits
      rw [fill?_append left filled]
      rfl

/-- A single space ends in one place only. -/
theorem afterBlanks_space {left : List Char} (solid : left.head?.any Text.isBlank = false) :
    afterBlanks (' ' :: left) = [left] := by
  have stop : afterBlanks left = [] := by
    cases left with
    | nil => rfl
    | cons d behind => simpa [afterBlanks] using solid
  rw [afterBlanks, stop]
  rfl

section Pieces

variable {rest : List Piece} {left final : List Char} {captures : List Capture}
  (later : matchPieces rest left = some (captures, final))

include later

theorem matchPieces_field {field : Field} {text taken : List Char} (fits : fit? field text = some (taken, left)) :
    matchPieces (.field field :: rest) text = some ((field, taken) :: captures, final) := by
  rw [matchPieces]
  unfold fit? at fits
  generalize field.spellings = spellings at *
  induction spellings with
  | nil => cases fits
  | cons spelling others ih =>
    rw [List.findSome?_cons] at fits ⊢
    cases filled : fill? spelling text with
    | none =>
      rw [filled] at fits
      exact ih fits
    | some found =>
      rw [filled] at fits
      obtain rfl := Option.some.inj fits
      simp only [later]

theorem matchPieces_char (c : Char) (same : Text.alike c c = true) :
    matchPieces (.char c :: rest) (c :: left) = some (captures, final) := by
  simp only [matchPieces, same, later, ↓reduceIte]

theorem matchPieces_blank (solid : left.head?.any Text.isBlank = false) :
    matchPieces (.blanks :: rest) (' ' :: left) = some (captures, final) := by
  rw [matchPieces, afterBlanks_space solid]
  simp only [List.findSome?_cons, later]

end Pieces

/-- The numbers that a field of two digits holds. -/
def Field.holds : Field → Nat → Bool
  | .month, n => 1 ≤ n && n ≤ 12
  | .day, n => 1 ≤ n && n ≤ 31
  | .hour, n => n < 24
  | .minute, _ => true
  | .second, _ => true
  | _, _ => false

def pairFields : List Field := [.month, .day, .hour, .minute, .second]

theorem fit?_pair (field : Field) (n : Nat) (left : List Char) (few : n < 60) (held : field.holds n = true)
    (pair : field ∈ pairFields) : fit? field (padded 2 n ++ left) = some (padded 2 n, left) := by
  have lengths : ∀ field ∈ pairFields, ∀ spelling ∈ field.spellings, spelling.length ≤ 2 := by decide
  have each : ∀ field ∈ pairFields, ∀ n < 60, field.holds n = true →
      fit? field (padded 2 n) = some (padded 2 n, []) := by decide +kernel
  refine fit?_append left ?_ (each field pair n few held)
  rw [length_padded (by decide) (Nat.lt_trans few (by decide))]
  exact lengths field pair

theorem fit?_year {year : Nat} (few : year ≤ Day.maxYear) (left : List Char) :
    fit? .year (padded 4 year ++ left) = some (padded 4 year, left) := by
  have four : (padded 4 year).length = 4 := length_padded (by decide) (Nat.lt_succ_of_le few)
  refine fit?_append left (by simp [Field.spellings, four]) ?_
  have digits := isDigit_padded 4 year
  obtain ⟨a, b, c, d, same⟩ : ∃ a b c d, padded 4 year = [a, b, c, d] := List.length_eq_four.mp four
  rw [same] at digits ⊢
  simp only [List.forall_mem_cons] at digits
  have digit_ : ∀ c : Char, c.isDigit = true → digit c = true := fun c here => by
    simp [digit, Text.isDigit, Text.digitValue?_of_isDigit here]
  simp [fit?, Field.spellings, fill?, digit_ _ digits.1, digit_ _ digits.2.1, digit_ _ digits.2.2.1,
    digit_ _ digits.2.2.2.1]

/-- The pieces of the usual format. -/
def usualPieces : List Piece := [.field .year, .char '-', .field .month, .char '-', .field .day, .blanks,
  .field .hour, .char ':', .field .minute, .char ':', .field .second]

theorem readFormat_default : readFormat defaultFormat = .ok usualPieces := by decide +kernel

namespace Moment

variable {m : Moment}

def captures (m : Moment) : List Capture := [(.year, padded 4 m.day.year), (.month, padded 2 m.day.month),
  (.day, padded 2 m.day.day), (.hour, padded 2 m.hour), (.minute, padded 2 m.minute), (.second, padded 2 m.second)]

theorem monthLength_le (year month : Nat) : monthLength year month ≤ 31 := by
  have lengths : ∀ length ∈ monthLengths year, length ≤ 31 := by
    intro length member
    simp only [monthLengths, List.mem_cons, List.not_mem_nil, or_false] at member
    split at member <;> omega
  unfold monthLength
  rw [List.getD_eq_getElem?_getD]
  cases found : (monthLengths year)[month - 1]? with
  | none => exact Nat.zero_le _
  | some length => exact lengths length (List.mem_of_getElem? found)

theorem matchPieces_chars (valid : m.Valid) : matchPieces usualPieces m.chars = some (m.captures, []) := by
  obtain ⟨-, lastYear, firstMonth, lastMonth, firstDay, lastDay⟩ := valid.day
  have daysInMonth := monthLength_le m.day.year m.day.month
  have lastHour := valid.hour
  have none : matchPieces [] [] = some ([], []) := rfl
  have second := matchPieces_field none (fit?_pair .second m.second [] valid.second rfl (by decide))
  have minute := matchPieces_field (matchPieces_char second ':' rfl)
    (fit?_pair .minute m.minute _ valid.minute rfl (by decide))
  have hour := matchPieces_field (matchPieces_char minute ':' rfl)
    (fit?_pair .hour m.hour _ (by omega) (by simpa [Field.holds]) (by decide))
  have day := matchPieces_field (matchPieces_blank hour (head?_padded m.hour (by decide) _))
    (fit?_pair .day m.day.day _ (by omega) (by simp [Field.holds]; omega) (by decide))
  have month := matchPieces_field (matchPieces_char day '-' rfl)
    (fit?_pair .month m.day.month _ (by omega) (by simp [Field.holds]; omega) (by decide))
  have year := matchPieces_field (matchPieces_char month '-' rfl) (fit?_year lastYear _)
  have whole : m.chars = padded 4 m.day.year ++ '-' :: (padded 2 m.day.month ++ '-' :: (padded 2 m.day.day ++
      ' ' :: (padded 2 m.hour ++ ':' :: (padded 2 m.minute ++ ':' :: (padded 2 m.second ++ []))))) := by
    simp [chars, dateText, clockText]
  rw [whole]
  exact year

def reading (m : Moment) : Reading where
  year := some m.day.year
  month := m.day.month
  day := m.day.day
  hour := m.hour
  minute := m.minute
  second := m.second

theorem readCaptures_captures (m : Moment) : readCaptures m.captures = .ok m.reading := by
  have taken : readCaptures m.captures = .ok {
    year := some (numeral (padded 4 m.day.year))
    month := numeral (padded 2 m.day.month)
    day := numeral (padded 2 m.day.day)
    hour := numeral (padded 2 m.hour)
    minute := numeral (padded 2 m.minute)
    second := numeral (padded 2 m.second) } := rfl
  rw [taken]
  simp only [numeral_padded, reading]

/-- A day that is named in full is only checked. -/
theorem toDay_reading (m : Moment) : m.reading.toDay = (checkDay m.day).map fun _ => m.day := by
  simp only [Reading.toDay, Reading.findYearDay, Reading.assumedYear, reading, Option.getD_some, Option.isNone_some,
    Bool.false_and, Bool.false_eq_true, ↓reduceIte]
  cases checkDay m.day <;> rfl

theorem toTimestamp_reading (valid : m.Valid) : m.reading.toTimestamp = .ok m.timestamp := by
  have year : checkYear m.day.year = .ok () := by
    obtain ⟨first, last, -⟩ := valid.day
    rw [checkYear, if_pos ⟨first, last⟩]
  have day : checkDay m.day = .ok () := by
    rw [checkDay, year]
    exact if_pos valid.day
  have found : m.reading.toDay = .ok m.day := by
    rw [toDay_reading, day]
    rfl
  have second : m.reading.second ≤ 59 := Nat.le_of_lt_succ valid.second
  have epochValid : epoch.Valid := by decide
  have same : m.reading.timestamp m.day = m.timestamp := by
    have days : (m.day.toOrdinal : Int) - epoch.toOrdinal = m.day.elapsed - epoch.elapsed := by
      rw [valid.day.toOrdinal_eq, epochValid.toOrdinal_eq]
      omega
    have whole : (m.reading.microsecond == 0) = true := rfl
    rw [Reading.timestamp, if_pos whole, days]
    rfl
  have iso : m.reading.checkIso = .ok () := rfl
  have offset : m.reading.checkOffset = .ok () := rfl
  simp only [Reading.toTimestamp, iso, found, offset, day, bind, Except.bind, second, ↓reduceIte, same]
  rfl

theorem solid_dateText (d : Day) : ∀ c ∈ dateText d, Text.isBlank c = false := by
  simp only [dateText, List.forall_mem_append, List.forall_mem_cons]
  exact ⟨solid_padded _ _, rfl, solid_padded _ _, rfl, solid_padded _ _⟩

theorem solid_clockText (m : Moment) : ∀ c ∈ clockText m, Text.isBlank c = false := by
  simp only [clockText, List.forall_mem_append, List.forall_mem_cons]
  exact ⟨solid_padded _ _, rfl, solid_padded _ _, rfl, solid_padded _ _⟩

theorem words_chars (m : Moment) : Text.words m.chars = [dateText m.day, clockText m] := by
  have date := Text.words_of_solid (by simp [dateText]) (solid_dateText m.day)
  have clock := Text.words_of_solid (by simp [clockText]) (solid_clockText m)
  rw [chars, Text.words_append_blank rfl, date, clock]
  rfl

theorem collapse_chars (m : Moment) : Text.collapse m.chars = m.chars := by
  rw [Text.collapse, words_chars, chars]
  simp [List.intercalate]

/-- A date is read as the seconds it is away from the start of 1970. -/
theorem read_text (valid : m.Valid) : read m.text defaultFormat = .ok m.timestamp := by
  rw [read, text, String.toList_ofList, collapse_chars, readCollapsed, readFormat_default]
  simp only [matchPieces_chars valid, readCaptures_captures, toTimestamp_reading valid, Except.bind]

end Moment
end BoardMigration.Date
