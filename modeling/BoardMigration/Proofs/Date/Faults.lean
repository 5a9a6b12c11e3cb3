import BoardMigration.Date.Read
import BoardMigration.Proofs.Related

/-! Faults of a date and faults of its format. Whatever the text, an error of the format is the one that
the format has by itself, and a format that names no field twice never fails for a repeated field. -/
namespace BoardMigration.Date

/-- An error that the format is to blame for. -/
def DateError.ofFormat (error : DateError) : Prop := ∃ cause, error = .format cause

/-- A step that blames no format. -/
abbrev Blameless {α : Type} (read : Except DateError α) : Prop := Avoids DateError.ofFormat read

theorem blameless_place (names : List String) (text : List Char) : Blameless (place names text) := by
  unfold place
  dsimp only
  split
  · exact avoids_ok _ _
  · exact avoids_error (by simp [DateError.ofFormat])

theorem blameless_readOffset (text : List Char) : Blameless (readOffset text) := by
  unfold readOffset
  split
  · dsimp only
    split
    · next error failed =>
      split at failed <;> cases failed
      exact avoids_error (by simp [DateError.ofFormat])
    · split
      · exact avoids_error (by simp [DateError.ofFormat])
      · exact avoids_ok _ _
  · exact avoids_ok _ _

theorem blameless_take (half : List Char) (r : Reading) (capture : Capture) :
    Blameless (r.take half capture) := by
  unfold Reading.take
  split
  all_goals first
    | exact avoids_ok _ _
    | exact (blameless_place _ _).map _
    | exact (blameless_readOffset _).map _

theorem blameless_readCaptures (captures : List Capture) : Blameless (readCaptures captures) :=
  Avoids.foldlM (blameless_take _) captures _

theorem blameless_checkYear (year : Nat) : Blameless (checkYear year) := by
  unfold checkYear
  split
  · exact avoids_ok _ _
  · exact avoids_error (by simp [DateError.ofFormat])

theorem blameless_checkDay (d : Day) : Blameless (checkDay d) := by
  unfold checkDay
  split
  · next error failed => exact avoids_error (blameless_checkYear d.year error failed)
  · split
    · exact avoids_ok _ _
    · exact avoids_error (by simp [DateError.ofFormat])

theorem blameless_yearDayOfIsoWeek (isoYear week weekday : Nat) :
    Blameless (yearDayOfIsoWeek isoYear week weekday) := by
  unfold yearDayOfIsoWeek
  split
  · next error failed => exact avoids_error (blameless_checkYear isoYear error failed)
  · dsimp only
    split
    · exact avoids_ok _ _
    · split
      · next error failed => exact avoids_error (blameless_checkYear _ error failed)
      · exact avoids_ok _ _

theorem blameless_findYearDay (r : Reading) (year : Nat) : Blameless (r.findYearDay year) := by
  unfold Reading.findYearDay
  split
  · exact avoids_ok _ _
  · dsimp only
    split
    · split <;> exact avoids_ok _ _
    · next found _ =>
      split
      · exact (blameless_checkYear year).map _
      · exact (blameless_yearDayOfIsoWeek _ _ _).map _
      · exact avoids_ok _ _

theorem blameless_toDay (r : Reading) : Blameless r.toDay := by
  unfold Reading.toDay
  split
  · next error failed => exact avoids_error (blameless_findYearDay r _ error failed)
  · apply Avoids.map
    split
    · exact (blameless_checkDay _).map _
    · split
      · next error failed => exact avoids_error (blameless_checkYear _ error failed)
      · exact (blameless_checkYear _).map _

theorem blameless_checkIso (r : Reading) : Blameless r.checkIso := by
  unfold Reading.checkIso
  repeat' split
  all_goals first
    | exact avoids_ok _ _
    | exact avoids_error (by simp [DateError.ofFormat])

theorem blameless_checkOffset (r : Reading) : Blameless r.checkOffset := by
  unfold Reading.checkOffset
  repeat' split
  all_goals first
    | exact avoids_ok _ _
    | exact avoids_error (by simp [DateError.ofFormat])

theorem blameless_toTimestamp (r : Reading) : Blameless r.toTimestamp := by
  unfold Reading.toTimestamp
  refine (blameless_checkIso r).bind fun _ => (blameless_toDay r).bind fun d =>
    (blameless_checkOffset r).bind fun _ => (blameless_checkDay d).bind fun _ => ?_
  split
  · exact avoids_ok _ _
  · exact avoids_error (by simp [DateError.ofFormat])

/-- Only a format that cannot be read fails with an error of the format. -/
theorem read_format_error {text format : String} {cause : FormatError}
    (failed : read text format = .error (.format cause)) : readFormat format = .error cause := by
  unfold read readCollapsed at failed
  split at failed
  · next error unreadable =>
    cases failed
    exact unreadable
  · split at failed
    · cases failed
    · next captures _ =>
      have blameless : Blameless ((readCaptures captures).bind Reading.toTimestamp) :=
        (blameless_readCaptures captures).bind blameless_toTimestamp
      exact absurd ⟨cause, rfl⟩ (blameless _ failed)
    · cases failed

def Piece.field? : Piece → Option Field
  | .field f => some f
  | _ => none

/-- The fields of a format, those included that `%c`, `%x` and `%X` stand for. A format that cannot be
read has none. -/
def fieldsOf (format : String) : List Field :=
  ((pieces format.toList).toOption.getD []).filterMap Piece.field?

def NamesOnce (format : String) : Prop := (fieldsOf format).Nodup

instance (format : String) : Decidable (NamesOnce format) :=
  inferInstanceAs (Decidable (fieldsOf format).Nodup)

theorem repeated?_eq_none {seen : List Field} {parts : List Piece}
    (distinct : (parts.filterMap Piece.field?).Nodup)
    (fresh : ∀ field ∈ parts.filterMap Piece.field?, field ∉ seen) : repeated? seen parts = none := by
  induction parts generalizing seen with
  | nil => rfl
  | cons part rest ih =>
    cases part with
    | char c => exact ih distinct fresh
    | blanks => exact ih distinct fresh
    | field f =>
      have split : (Piece.field f :: rest).filterMap Piece.field? =
          f :: rest.filterMap Piece.field? := rfl
      rw [split] at distinct fresh
      rw [List.nodup_cons] at distinct
      have new : f ∉ seen := fresh f List.mem_cons_self
      simp only [repeated?, List.contains_eq_mem, new, decide_false, Bool.false_eq_true, if_false]
      apply ih distinct.2
      intro other member
      rw [List.mem_cons, not_or]
      exact ⟨fun same => distinct.1 (same ▸ member), fresh other (List.mem_cons_of_mem _ member)⟩

/-- Reading a format piece by piece notices no repetition. -/
theorem pieces_ne_repeated (format : List Char) (f : Field) : pieces format ≠ .error (.repeated f) := by
  have letter (c : Char) : directive c ≠ .error (.repeated f) := by
    unfold directive
    repeat' split
    all_goals simp
  intro failed
  fun_induction pieces format with
  | case1 => cases failed
  | case2 => cases failed
  | case3 c rest error unknown =>
    obtain rfl := Except.error.inj failed
    exact letter c unknown
  | case4 c rest first error later _ ih =>
    obtain rfl := Except.error.inj failed
    exact ih later
  | case5 => cases failed
  | case6 c rest _ _ error later ih =>
    obtain rfl := Except.error.inj failed
    exact ih later
  | case7 => cases failed
  | case8 => cases failed
  | case9 => cases failed

theorem NamesOnce.not_repeated {format : String} (once : NamesOnce format) (text : String)
    (field : Field) : read text format ≠ .error (.format (.repeated field)) := by
  intro failed
  have unreadable := read_format_error failed
  unfold readFormat at unreadable
  split at unreadable
  · next error failed =>
    obtain rfl := Except.error.inj unreadable
    exact pieces_ne_repeated _ _ failed
  · next parts read =>
    have distinct : (parts.filterMap Piece.field?).Nodup := by
      simpa [NamesOnce, fieldsOf, read, Except.toOption] using once
    rw [repeated?_eq_none distinct (by simp)] at unreadable
    cases unreadable

example : NamesOnce defaultFormat := by decide +kernel
example : ¬ NamesOnce "%x %y" := by decide +kernel

end BoardMigration.Date
