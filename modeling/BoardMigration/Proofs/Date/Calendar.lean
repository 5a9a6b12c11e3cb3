import BoardMigration.Date.Calendar
import Mathlib.Data.List.Fold

/-! Days counted one year and one month after another. -/
namespace BoardMigration.Date

/-- Days from the first of January of year 1 to the day. -/
def Day.elapsed (d : Day) : Nat :=
  (List.range' 1 (d.year - 1)).foldl (· + yearLength ·) 0 +
    ((monthLengths d.year).take (d.month - 1)).foldl (· + ·) 0 + (d.day - 1)

/-- Another year adds a day to every fourth, but not to every hundredth unless to every four hundredth. -/
theorem daysBeforeYear_succ (past : Nat) :
    daysBeforeYear (past + 1 + 1) = daysBeforeYear (past + 1) + yearLength (past + 1) := by
  have length : yearLength (past + 1) = if 4 ∣ past + 1 ∧ (¬ 100 ∣ past + 1 ∨ 400 ∣ past + 1) then 366 else 365 := by
    simp [yearLength, isLeap, Nat.dvd_iff_mod_eq_zero]
  have fewer : past / 100 ≤ past / 4 := Nat.div_le_div_left (by decide) (by decide)
  have fourths : 100 ∣ past + 1 → 4 ∣ past + 1 := Nat.dvd_trans (by decide)
  have hundredths : 400 ∣ past + 1 → 100 ∣ past + 1 := Nat.dvd_trans (by decide)
  rw [length, daysBeforeYear, daysBeforeYear]
  simp only [Nat.add_sub_cancel, Nat.succ_div]
  generalize past / 4 = a at *
  generalize past / 100 = b at *
  generalize past / 400 = c
  by_cases fourth : 4 ∣ past + 1 <;> by_cases hundredth : 100 ∣ past + 1 <;>
    by_cases last : 400 ∣ past + 1 <;> simp_all <;> omega

theorem daysBeforeYear_eq_foldl (past : Nat) :
    daysBeforeYear (past + 1) = (List.range' 1 past).foldl (· + yearLength ·) 0 := by
  induction past with
  | zero => rfl
  | succ past ih =>
    rw [daysBeforeYear_succ, ih, List.range'_1_concat, List.foldl_append, Nat.add_comm 1]
    rfl

theorem daysBeforeMonth_eq_foldl (year month : Nat) :
    daysBeforeMonth year month = ((monthLengths year).take (month - 1)).foldl (· + ·) 0 :=
  List.foldl_eq_foldr.symm

/-- Day numbers count the days, beginning with 1. -/
theorem Day.Valid.toOrdinal_eq {d : Day} (valid : d.Valid) : d.toOrdinal = d.elapsed + 1 := by
  obtain ⟨someYear, -, -, -, someDay, -⟩ := valid
  obtain ⟨past, same⟩ := Nat.exists_eq_add_of_le' someYear
  rw [Day.toOrdinal, Day.elapsed, daysBeforeMonth_eq_foldl, same, daysBeforeYear_eq_foldl]
  simp only [Nat.add_sub_cancel]
  omega

end BoardMigration.Date
