import BoardMigration.Proofs.Date.Faults
import BoardMigration.Proofs.Date.Order

/-! Dates in the usual format, with any blanks around date and time. Six numbers of the usual widths are read as
seconds if they are a date and a time, and refused if not: a field that does not take both digits of its number
leaves a digit where the format wants something else. -/
namespace BoardMigration.Date

/-- A text is read by its words. -/
theorem read_congr {text other : List Char} (same : Text.words text = Text.words other) (format : String) :
    read (String.ofList text) format = read (String.ofList other) format := by
  rw [read, read, String.toList_ofList, String.toList_ofList, (Text.collapse_eq_iff text other).mpr same]

/-- A date and a time with blanks around and between them. -/
def spaced (before between behind : List Char) (m : Moment) : String :=
  String.ofList (before ++ (Moment.dateText m.day ++ between ++ m.clockText) ++ behind)

theorem read_spaced {before between behind : List Char} (ahead : Text.isBlankText before = true)
    (apart : Text.isBlankText between = true) (some : between ≠ []) (after : Text.isBlankText behind = true)
    (m : Moment) (format : String) : read (spaced before between behind m) format = read m.text format := by
  refine read_congr ?_ format
  rw [Text.words_append_blanks after, Text.words_blanks_append ahead, Text.words_append_blanks_append apart some,
    Moment.words_chars, Text.words_of_solid (by simp [Moment.dateText]) (Moment.solid_dateText m.day),
    Text.words_of_solid (by simp [Moment.clockText]) m.solid_clockText]
  rfl

theorem of_fill? {places : List Place} {text taken left : List Char} (filled : fill? places text = some (taken, left)) :
    text = taken ++ left ∧ taken.length = places.length := by
  induction places generalizing text taken with
  | nil =>
    cases filled
    exact ⟨rfl, rfl⟩
  | cons place places ih =>
    cases text with
    | nil => cases filled
    | cons c text =>
      simp only [fill?] at filled
      split at filled
      case isFalse => cases filled
      obtain ⟨⟨later, behind⟩, found, same⟩ := Option.map_eq_some_iff.mp filled
      obtain ⟨rfl, rfl⟩ := Prod.mk.inj same
      obtain ⟨rfl, length⟩ := ih found
      exact ⟨rfl, congrArg Nat.succ length⟩

theorem of_matchPieces_field {field : Field} {rest : List Piece} {text final : List Char} {captures : List Capture}
    (found : matchPieces (.field field :: rest) text = some (captures, final)) :
    ∃ spelling ∈ field.spellings, ∃ taken left later, fill? spelling text = some (taken, left) ∧
      matchPieces rest left = some (later, final) ∧ captures = (field, taken) :: later := by
  rw [matchPieces] at found
  obtain ⟨spelling, listed, found⟩ := List.exists_of_findSome?_eq_some found
  split at found
  · cases found
  · next taken left filled =>
    split at found
    · cases found
    · next later final matched =>
      obtain ⟨rfl, rfl⟩ := Prod.mk.inj (Option.some.inj found)
      exact ⟨spelling, listed, taken, left, later, filled, matched, rfl⟩

/-- Pieces that do not match to the end what begins with a digit. -/
def Stuck (rest : List Piece) : Prop :=
  ∀ (d : Char) (left : List Char) (captures : List Capture), d.isDigit = true →
    matchPieces rest (d :: left) ≠ some (captures, [])

theorem exists_of_isDigit {d : Char} (digit : d.isDigit = true) : ∃ n < 10, d = Char.ofNat (48 + n) := by
  have range := Text.range_of_isDigit digit
  refine ⟨d.toNat - 48, by omega, ?_⟩
  rw [Nat.add_sub_cancel' range.1, Char.ofNat_toNat]

theorem stuck_nil : Stuck [] := by
  intro d left captures _ matched
  cases matched

theorem alike_digit {c d : Char} (mark : c = '-' ∨ c = ':') (digit : d.isDigit = true) : Text.alike c d = false := by
  have dash : ∀ n < 10, Text.alike '-' (Char.ofNat (48 + n)) = false := by decide +kernel
  have colon : ∀ n < 10, Text.alike ':' (Char.ofNat (48 + n)) = false := by decide +kernel
  obtain ⟨n, few, rfl⟩ := exists_of_isDigit digit
  rcases mark with rfl | rfl
  · exact dash n few
  · exact colon n few

theorem stuck_char {c : Char} (mark : c = '-' ∨ c = ':') (rest : List Piece) : Stuck (.char c :: rest) := by
  intro d left captures digit matched
  rw [matchPieces] at matched
  simp only [alike_digit mark digit, Bool.false_eq_true, ↓reduceIte] at matched
  cases matched

theorem stuck_blanks (rest : List Piece) : Stuck (.blanks :: rest) := by
  intro d left captures digit matched
  have solid := (Text.IsNumeral.solid (.inr digit) : Text.isBlank d = false)
  rw [matchPieces, afterBlanks, solid] at matched
  cases matched

/-- Whether some spelling of a field takes a number of two digits whole. -/
def Field.takes (field : Field) (n : Nat) : Bool :=
  field.spellings.any fun spelling => fill? spelling (padded 2 n) == some (padded 2 n, [])

section Match

variable {field : Field} {n : Nat} {rest : List Piece} {left : List Char} {captures : List Capture}

/-- A field before pieces that are stuck at a digit takes both digits of its number. -/
theorem of_matchPieces_pair (pair : field ∈ pairFields) (few : n < 100) (stuck : Stuck rest)
    (found : matchPieces (.field field :: rest) (padded 2 n ++ left) = some (captures, [])) :
    field.takes n = true ∧
      ∃ later, matchPieces rest left = some (later, []) ∧ captures = (field, padded 2 n) :: later := by
  have two : (padded 2 n).length = 2 := length_padded (by decide) few
  have lengths : ∀ field ∈ pairFields, ∀ spelling ∈ field.spellings, spelling.length = 1 ∨ spelling.length = 2 := by
    decide
  obtain ⟨spelling, listed, taken, behind, later, filled, matched, rfl⟩ := of_matchPieces_field found
  have short : spelling.length ≤ (padded 2 n).length := by
    have := lengths field pair spelling listed
    omega
  cases inner : fill? spelling (padded 2 n) with
  | none =>
    rw [fill?_append_none left short inner] at filled
    cases filled
  | some parts =>
    obtain ⟨first, second⟩ := parts
    rw [fill?_append left inner] at filled
    obtain ⟨rfl, rfl⟩ := Prod.mk.inj (Option.some.inj filled)
    obtain ⟨whole, length⟩ := of_fill? inner
    cases second with
    | nil =>
      rw [List.append_nil] at whole
      refine ⟨List.any_eq_true.mpr ⟨spelling, listed, ?_⟩, later, matched, ?_⟩
      · rw [inner, whole]
        exact beq_self_eq_true _
      · rw [whole]
    | cons d second =>
      have digit : d.isDigit = true := isDigit_padded 2 n d (by rw [whole]; simp)
      exact absurd matched (stuck d _ later digit)

theorem of_matchPieces_year {year : Nat} (few : year < 10000)
    (found : matchPieces (.field .year :: rest) (padded 4 year ++ left) = some (captures, [])) :
    ∃ later, matchPieces rest left = some (later, []) ∧ captures = (.year, padded 4 year) :: later := by
  have four : (padded 4 year).length = 4 := length_padded (by decide) few
  obtain ⟨spelling, listed, taken, behind, later, filled, matched, rfl⟩ := of_matchPieces_field found
  obtain rfl : spelling = [digit, digit, digit, digit] := by simpa [Field.spellings] using listed
  obtain ⟨whole, length⟩ := of_fill? filled
  obtain ⟨same, rfl⟩ := List.append_inj whole (four.trans length.symm)
  rw [same]
  exact ⟨later, matched, rfl⟩

theorem of_matchPieces_char {c d : Char} (found : matchPieces (.char c :: rest) (d :: left) = some (captures, [])) :
    matchPieces rest left = some (captures, []) := by
  rw [matchPieces] at found
  split at found
  · exact found
  · cases found

theorem of_matchPieces_space (solid : left.head?.any Text.isBlank = false)
    (found : matchPieces (.blanks :: rest) (' ' :: left) = some (captures, [])) :
    matchPieces rest left = some (captures, []) := by
  rw [matchPieces, afterBlanks_space solid] at found
  obtain ⟨behind, member, matched⟩ := List.exists_of_findSome?_eq_some found
  obtain rfl := List.mem_singleton.mp member
  exact matched

end Match

namespace Moment

/-- Numbers that can be written in the usual widths, whether there is such a moment or not. -/
structure Fits (m : Moment) : Prop where
  year : m.day.year < 10000
  month : m.day.month < 100
  day : m.day.day < 100
  hour : m.hour < 100
  minute : m.minute < 100
  second : m.second < 100

variable {m : Moment}

/-- What matches to the end is captured as it was written, and hour and minute are those of a day. -/
theorem of_matchPieces_chars (fits : m.Fits) {captures : List Capture}
    (found : matchPieces usualPieces m.chars = some (captures, [])) :
    captures = m.captures ∧ m.hour < 24 ∧ m.minute < 60 := by
  have whole : m.chars = padded 4 m.day.year ++ '-' :: (padded 2 m.day.month ++ '-' :: (padded 2 m.day.day ++
      ' ' :: (padded 2 m.hour ++ ':' :: (padded 2 m.minute ++ ':' :: (padded 2 m.second ++ []))))) := by
    simp [chars, dateText, clockText]
  rw [whole] at found
  obtain ⟨_, year, rfl⟩ := of_matchPieces_year fits.year found
  obtain ⟨-, _, month, rfl⟩ :=
    of_matchPieces_pair (by decide) fits.month (stuck_char (by decide) _) (of_matchPieces_char year)
  obtain ⟨-, _, day, rfl⟩ := of_matchPieces_pair (by decide) fits.day (stuck_blanks _) (of_matchPieces_char month)
  obtain ⟨inDay, _, hour, rfl⟩ := of_matchPieces_pair (by decide) fits.hour (stuck_char (by decide) _)
    (of_matchPieces_space (head?_padded m.hour (by decide) _) day)
  obtain ⟨inHour, _, minute, rfl⟩ :=
    of_matchPieces_pair (by decide) fits.minute (stuck_char (by decide) _) (of_matchPieces_char hour)
  obtain ⟨-, _, second, rfl⟩ := of_matchPieces_pair (by decide) fits.second stuck_nil (of_matchPieces_char minute)
  obtain ⟨rfl, -⟩ := Prod.mk.inj (Option.some.inj second)
  have hours : ∀ n < 100, Field.hour.takes n = true → n < 24 := by decide +kernel
  have minutes : ∀ n < 100, Field.minute.takes n = true → n < 60 := by decide +kernel
  exact ⟨rfl, hours m.hour fits.hour inDay, minutes m.minute fits.minute inHour⟩

theorem checkDay_ok {d : Day} (checked : checkDay d = .ok ()) : d.Valid := by
  unfold checkDay at checked
  split at checked
  · cases checked
  · split at checked
    · assumption
    · cases checked

/-- The day and the second are checked after the match. -/
theorem of_toTimestamp_reading {timestamp : Int} (done : m.reading.toTimestamp = .ok timestamp) :
    m.day.Valid ∧ m.second < 60 := by
  unfold Reading.toTimestamp at done
  obtain ⟨_, -, done⟩ := bind_ok done
  obtain ⟨d, found, done⟩ := bind_ok done
  obtain ⟨_, -, done⟩ := bind_ok done
  obtain ⟨_, checked, done⟩ := bind_ok done
  split at done
  case isFalse => cases done
  case isTrue last =>
    rw [toDay_reading] at found
    cases valid : checkDay m.day with
    | error error =>
      rw [valid] at found
      cases found
    | ok => exact ⟨checkDay_ok valid, Nat.lt_succ_of_le last⟩

/-- Only a moment that there is can be read. -/
theorem valid_of_read (fits : m.Fits) {timestamp : Int} (done : read m.text defaultFormat = .ok timestamp) :
    m.Valid := by
  rw [read, text, String.toList_ofList, collapse_chars, readCollapsed, readFormat_default] at done
  dsimp only at done
  split at done
  · cases done
  · next captures found =>
    obtain ⟨rfl, hour, minute⟩ := of_matchPieces_chars fits found
    rw [readCaptures_captures] at done
    obtain ⟨day, second⟩ := of_toTimestamp_reading done
    exact ⟨day, hour, minute, second⟩
  · cases done

end Moment

theorem not_ofFormat_default {text : String} {error : DateError} (failed : read text defaultFormat = .error error) :
    ¬ error.ofFormat := by
  rintro ⟨cause, rfl⟩
  have unreadable := read_format_error failed
  rw [readFormat_default] at unreadable
  cases unreadable

/-- Dates in the usual format, whatever blanks stand around date and time: those that exist are read as the seconds
they are away from the start of 1970, which are in the order of the dates, and other numbers are refused, for what
they are and not for the format. -/
theorem read_usual {before between behind : List Char} (ahead : Text.isBlankText before = true)
    (apart : Text.isBlankText between = true) (some : between ≠ []) (after : Text.isBlankText behind = true) :
    (∀ m : Moment, m.Valid → read (spaced before between behind m) defaultFormat = .ok m.timestamp) ∧
    (∀ a b : Moment, a.Valid → b.Valid → (a.timestamp < b.timestamp ↔ a.fields < b.fields)) ∧
    (∀ m : Moment, m.Fits → ¬ m.Valid →
      ∃ error, read (spaced before between behind m) defaultFormat = .error error ∧ ¬ error.ofFormat) := by
  have same (m : Moment) := read_spaced ahead apart some after m defaultFormat
  refine ⟨fun m valid => ?_, fun a b => Moment.timestamp_lt_iff, fun m fits invalid => ?_⟩
  · rw [same, Moment.read_text valid]
  · cases result : read m.text defaultFormat with
    | ok timestamp => exact absurd (Moment.valid_of_read fits result) invalid
    | error error => exact ⟨error, (same m).trans result, not_ofFormat_default result⟩

/-- The last second of a leap day and the first of the next day, a leap day that 1900 did not have, and a leap
second. -/
theorem read_usual_leap :
    let day : Moment := ⟨⟨2000, 2, 29⟩, 23, 59, 59⟩
    let next : Moment := ⟨⟨2000, 3, 1⟩, 0, 0, 0⟩
    let missing : Moment := ⟨⟨1900, 2, 29⟩, 0, 0, 0⟩
    let leap : Moment := ⟨⟨1998, 12, 31⟩, 23, 59, 60⟩
    Text.isBlankText "\n".toList = true ∧ Text.isBlankText "\t\u00a0".toList = true ∧ "\t\u00a0".toList ≠ [] ∧
      (day.Valid ∧ read "\n2000-02-29\t\u00a023:59:59\n" defaultFormat = .ok 951868799) ∧
      (next.Valid ∧ day.fields < next.fields ∧ day.timestamp < next.timestamp) ∧
      (missing.Fits ∧ ¬ missing.Valid ∧
        ∃ error, read "\n1900-02-29\t\u00a000:00:00\n" defaultFormat = .error error ∧ ¬ error.ofFormat) ∧
      leap.Fits ∧ ¬ leap.Valid ∧
        ∃ error, read "\n1998-12-31\t\u00a023:59:60\n" defaultFormat = .error error ∧ ¬ error.ofFormat := by
  intro day next missing leap
  have line : Text.isBlankText "\n".toList = true := by decide
  have gap : Text.isBlankText "\t\u00a0".toList = true := by decide
  have some : "\t\u00a0".toList ≠ [] := by decide
  obtain ⟨reads, order, refuses⟩ := read_usual line gap some line
  have valid : day.Valid := ⟨by decide, by decide, by decide, by decide⟩
  have valid' : next.Valid := ⟨by decide, by decide, by decide, by decide⟩
  have fits : missing.Fits := ⟨by decide, by decide, by decide, by decide, by decide, by decide⟩
  have fits' : leap.Fits := ⟨by decide, by decide, by decide, by decide, by decide, by decide⟩
  have invalid : ¬ missing.Valid := fun valid => absurd valid.day (by decide)
  have invalid' : ¬ leap.Valid := fun valid => absurd valid.second (by decide)
  have earlier : day.fields < next.fields := by decide
  have seconds : day.timestamp = 951868799 := by decide +kernel
  have text : spaced "\n".toList "\t\u00a0".toList "\n".toList day = "\n2000-02-29\t\u00a023:59:59\n" := by
    decide +kernel
  have text' : spaced "\n".toList "\t\u00a0".toList "\n".toList missing = "\n1900-02-29\t\u00a000:00:00\n" := by
    decide +kernel
  have text'' : spaced "\n".toList "\t\u00a0".toList "\n".toList leap = "\n1998-12-31\t\u00a023:59:60\n" := by
    decide +kernel
  rw [← text, ← text', ← text'', ← seconds]
  exact ⟨line, gap, some, ⟨valid, reads day valid⟩, ⟨valid', earlier, (order day next valid valid').mpr earlier⟩,
    ⟨fits, invalid, refuses missing fits invalid⟩, fits', invalid', refuses leap fits' invalid'⟩

end BoardMigration.Date
