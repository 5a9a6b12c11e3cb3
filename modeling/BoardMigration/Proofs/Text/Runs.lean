import Mathlib.Data.List.TakeWhile

/-! The run of like characters that a text begins with, and what follows it. -/
namespace BoardMigration.Text

variable {α : Type} {p : α → Bool}

theorem drop_takeWhile (p : α → Bool) (text : List α) :
    text.drop (text.takeWhile p).length = text.dropWhile p := by
  induction text with
  | nil => rfl
  | cons c rest ih => cases here : p c <;> simp [here, ih]

section Run

variable {run rest : List α} (inside : ∀ c ∈ run, p c = true) (stops : ∀ c ∈ rest.head?, p c = false)

include inside stops

theorem takeWhile_run : (run ++ rest).takeWhile p = run := by
  rw [List.takeWhile_append_of_pos inside]
  cases rest with
  | nil => exact List.append_nil run
  | cons c behind => simp [stops c rfl]

theorem dropWhile_run : (run ++ rest).dropWhile p = rest := by
  rw [List.dropWhile_append_of_pos inside]
  cases rest with
  | nil => rfl
  | cons c behind => simp [stops c rfl]

end Run

end BoardMigration.Text
