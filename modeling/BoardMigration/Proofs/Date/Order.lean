import BoardMigration.Proofs.Date.Moment
import Mathlib.Data.List.Lex
import Mathlib.Order.Monotone.Basic

/-! The order of dates. Fields count from the year down: what comes earlier in them is earlier in seconds. -/
namespace BoardMigration.Date

theorem daysBeforeMonth_succ (year past : Nat) :
    daysBeforeMonth year (past + 1 + 1) = daysBeforeMonth year (past + 1) + monthLength year (past + 1) := by
  rw [daysBeforeMonth_eq_foldl, daysBeforeMonth_eq_foldl, monthLength, List.getD_eq_getElem?_getD]
  simp only [Nat.add_sub_cancel]
  rw [List.take_add_one, List.foldl_append]
  cases (monthLengths year)[past]? <;> rfl

theorem daysBeforeMonth_mono (year : Nat) : Monotone fun past => daysBeforeMonth year (past + 1) :=
  monotone_nat_of_le_succ fun past => by
    rw [daysBeforeMonth_succ]
    exact Nat.le_add_right _ _

/-- The months make the year. -/
theorem daysBeforeMonth_last (year : Nat) : daysBeforeMonth year (12 + 1) = yearLength year := by
  unfold daysBeforeMonth yearLength monthLengths
  cases isLeap year <;> rfl

theorem daysBeforeYear_mono : Monotone fun past => daysBeforeYear (past + 1) :=
  monotone_nat_of_le_succ fun past => by
    rw [daysBeforeYear_succ]
    exact Nat.le_add_right _ _

namespace Day

variable {d e : Day}

def fields (d : Day) : List Nat := [d.year, d.month, d.day]

/-- A day lies before the first of any later month. -/
theorem Valid.within_month (valid : d.Valid) {month : Nat} (later : d.month < month) :
    daysBeforeMonth d.year d.month + d.day ≤ daysBeforeMonth d.year month := by
  obtain ⟨-, -, firstMonth, -, -, lastDay⟩ := valid
  obtain ⟨past, same⟩ := Nat.exists_eq_add_of_le' firstMonth
  obtain ⟨next, after⟩ := Nat.exists_eq_add_of_le' (Nat.lt_of_le_of_lt firstMonth later).le
  rw [same] at lastDay later ⊢
  rw [after] at later ⊢
  have step := daysBeforeMonth_succ d.year past
  have grows := daysBeforeMonth_mono d.year (show past + 1 ≤ next by omega)
  dsimp only at grows
  omega

theorem Valid.within_year (valid : d.Valid) : daysBeforeMonth d.year d.month + d.day ≤ yearLength d.year := by
  rw [← daysBeforeMonth_last]
  exact valid.within_month (Nat.lt_succ_of_le valid.2.2.2.1)

theorem Valid.toOrdinal_lt (valid : d.Valid) (valid' : e.Valid) (earlier : d.fields < e.fields) :
    d.toOrdinal < e.toOrdinal := by
  simp only [fields, List.cons_lt_cons_iff, List.not_lt_nil, and_false, or_false] at earlier
  have someDay : 1 ≤ e.day := valid'.2.2.2.2.1
  rw [toOrdinal, toOrdinal]
  rcases earlier with year | ⟨year, month | ⟨month, day⟩⟩
  · obtain ⟨past, same⟩ := Nat.exists_eq_add_of_le' valid.1
    obtain ⟨next, after⟩ := Nat.exists_eq_add_of_le' valid'.1
    have inYear := valid.within_year
    rw [same] at inYear ⊢
    rw [after]
    have step := daysBeforeYear_succ past
    have grows := daysBeforeYear_mono (show past + 1 ≤ next by omega)
    dsimp only at grows
    omega
  · have inMonth := valid.within_month month
    rw [year] at inMonth ⊢
    omega
  · rw [year, month]
    omega

end Day

namespace Moment

variable {a b : Moment}

/-- From the year down to the second. -/
def fields (m : Moment) : List Nat := m.day.fields ++ [m.hour, m.minute, m.second]

theorem fields_inj (same : a.fields = b.fields) : a = b := by
  obtain ⟨⟨year, month, day⟩, hour, minute, second⟩ := a
  obtain ⟨⟨year', month', day'⟩, hour', minute', second'⟩ := b
  simpa [fields, Day.fields, and_assoc] using same

/-- Of two moments the one of the earlier day comes first, on one day the one of the earlier time. -/
theorem fields_lt_iff : a.fields < b.fields ↔ a.day.fields < b.day.fields ∨
    a.day = b.day ∧ [a.hour, a.minute, a.second] < [b.hour, b.minute, b.second] := by
  obtain ⟨⟨year, month, day⟩, hour, minute, second⟩ := a
  obtain ⟨⟨year', month', day'⟩, hour', minute', second'⟩ := b
  simp only [fields, Day.fields, List.cons_append, List.nil_append, List.cons_lt_cons_iff, List.not_lt_nil, and_false,
    or_false, Day.mk.injEq]
  omega

theorem timestamp_lt (valid : a.Valid) (valid' : b.Valid) (earlier : a.fields < b.fields) :
    a.timestamp < b.timestamp := by
  obtain ⟨day, hour, minute, second⟩ := valid
  have ordinal := day.toOrdinal_eq
  have ordinal' := valid'.day.toOrdinal_eq
  rw [timestamp, timestamp]
  rcases fields_lt_iff.mp earlier with before | ⟨same, clock⟩
  · have days := day.toOrdinal_lt valid'.day before
    omega
  · simp only [List.cons_lt_cons_iff, List.not_lt_nil, and_false, or_false] at clock
    rw [same]
    omega

theorem timestamp_lt_iff (valid : a.Valid) (valid' : b.Valid) : a.timestamp < b.timestamp ↔ a.fields < b.fields := by
  refine ⟨fun less => ?_, timestamp_lt valid valid'⟩
  rcases lt_trichotomy a.fields b.fields with earlier | same | later
  · exact earlier
  · rw [fields_inj same] at less
    exact absurd less (lt_irrefl _)
  · exact absurd less (timestamp_lt valid' valid later).not_gt

end Moment
end BoardMigration.Date
