import BoardMigration.Text.Blank
import Mathlib.Data.List.Basic

/-! The words of a text. A blank separates what stands before it from what stands behind it, so joining
texts by blanks puts their words one after another, and texts collapse alike when they have the same
words. -/
namespace BoardMigration.Text

section Steps

variable {c d : Char} {rest : List Char}

theorem words_cons_blank (blank : isBlank c = true) : words (c :: rest) = words rest := by
  rw [words.eq_def]
  simp only [blank, ↓reduceIte]

theorem words_single (solid : isBlank c = false) : words [c] = [[c]] := by
  rw [words.eq_def]
  simp only [solid, Bool.false_eq_true, ↓reduceIte]

theorem words_before_blank (solid : isBlank c = false) (blank : isBlank d = true) :
    words (c :: d :: rest) = [c] :: words rest := by
  rw [words.eq_def]
  simp only [solid, blank, words_cons_blank blank]
  rfl

theorem words_ne_nil (solid : isBlank c = false) : words (c :: rest) ≠ [] := by
  rw [words.eq_def]
  simp only [solid, Bool.false_eq_true, ↓reduceIte]
  split
  · simp
  · split
    · simp
    · split <;> simp

/-- A further character of the first word. -/
theorem words_before_solid {word : List Char} {more : List (List Char)} (solid : isBlank c = false)
    (joined : isBlank d = false) (found : words (d :: rest) = word :: more) :
    words (c :: d :: rest) = (c :: word) :: more := by
  rw [words.eq_def]
  simp only [solid, joined, found]
  rfl

end Steps

/-- Words split at a blank. What else is known of words follows from this. -/
theorem words_append_blank {c : Char} (blank : isBlank c = true) (before behind : List Char) :
    words (before ++ c :: behind) = words before ++ words behind := by
  induction before with
  | nil => exact words_cons_blank blank
  | cons d rest ih =>
    cases leading : isBlank d with
    | true => rw [List.cons_append, words_cons_blank leading, words_cons_blank leading, ih]
    | false =>
      cases rest with
      | nil => exact (words_before_blank leading blank).trans (by rw [words_single leading]; rfl)
      | cons e rest =>
        cases joined : isBlank e with
        | true =>
          rw [List.cons_append, words_cons_blank joined, words_cons_blank joined] at ih
          rw [List.cons_append, List.cons_append, words_before_blank leading joined,
            words_before_blank leading joined, ih]
          rfl
        | false =>
          have some : words (e :: rest) ≠ [] := words_ne_nil joined
          obtain ⟨word, more, found⟩ := List.exists_cons_of_ne_nil some
          rw [found] at ih
          rw [words_before_solid leading joined found]
          exact words_before_solid leading joined ih

theorem words_of_solid {word : List Char} (some : word ≠ []) (solid : ∀ c ∈ word, isBlank c = false) :
    words word = [word] := by
  induction word with
  | nil => exact absurd rfl some
  | cons c rest ih =>
    rw [List.forall_mem_cons] at solid
    cases rest with
    | nil => exact words_single solid.1
    | cons d rest =>
      exact words_before_solid solid.1 (solid.2 d List.mem_cons_self) (ih (by simp) solid.2)

theorem of_mem_words {text word : List Char} (member : word ∈ words text) :
    word ≠ [] ∧ ∀ c ∈ word, isBlank c = false := by
  fun_induction words text generalizing word with
  | case1 => cases member
  | case2 c rest blank ih => exact ih member
  | case3 c solid =>
    obtain rfl := List.mem_singleton.mp member
    simpa using solid
  | case4 c solid d rest blank ih =>
    rcases List.mem_cons.mp member with rfl | later
    · simpa using solid
    · exact ih later
  | case5 c solid d rest joined none ih =>
    exact absurd none (words_ne_nil (by simpa using joined))
  | case6 c solid d rest joined first more found ih =>
    rw [found] at ih member
    rcases List.mem_cons.mp member with rfl | later
    · have inside := (ih List.mem_cons_self).2
      simpa [solid] using inside
    · exact ih (List.mem_cons_of_mem _ later)

theorem words_intercalate (texts : List (List Char)) :
    words ([' '].intercalate texts) = texts.flatMap words := by
  induction texts with
  | nil => rfl
  | cons text rest ih =>
    cases rest with
    | nil => simp [List.intercalate]
    | cons next rest =>
      have joined : [' '].intercalate (text :: next :: rest) =
          text ++ ' ' :: [' '].intercalate (next :: rest) := by simp [List.intercalate]
      rw [joined, words_append_blank (by decide), ih]
      rfl

theorem collapse_of_solid {word : List Char} (solid : ∀ c ∈ word, isBlank c = false) : collapse word = word := by
  by_cases none : word = []
  · rw [none]
    rfl
  · rw [collapse, words_of_solid none solid]
    exact List.intercalate_singleton

theorem words_collapse (text : List Char) : words (collapse text) = words text := by
  have each : ∀ word ∈ words text, words word = [word] := fun word member =>
    words_of_solid (of_mem_words member).1 (of_mem_words member).2
  rw [collapse, words_intercalate, List.flatMap_congr each]
  simp

theorem collapse_eq_iff (text other : List Char) :
    collapse text = collapse other ↔ words text = words other := by
  constructor
  · intro same
    rw [← words_collapse text, same, words_collapse]
  · intro same
    rw [collapse, collapse, same]

theorem words_eq_nil_iff (text : List Char) : words text = [] ↔ isBlankText text = true := by
  induction text with
  | nil => exact iff_of_true rfl rfl
  | cons c rest ih =>
    cases blank : isBlank c with
    | true => simpa [words_cons_blank blank, isBlankText, blank] using ih
    | false => simp [words_ne_nil blank, isBlankText, blank]

section Around

variable {blanks text : List Char} (blank : isBlankText blanks = true)

include blank

theorem words_blanks_append : words (blanks ++ text) = words text := by
  induction blanks with
  | nil => rfl
  | cons c blanks ih =>
    rw [isBlankText, List.all_cons, Bool.and_eq_true] at blank
    rw [List.cons_append, words_cons_blank blank.1, ih blank.2]

theorem words_append_blanks : words (text ++ blanks) = words text := by
  cases blanks with
  | nil => rw [List.append_nil]
  | cons c blanks =>
    rw [isBlankText, List.all_cons, Bool.and_eq_true] at blank
    rw [words_append_blank blank.1, (words_eq_nil_iff blanks).mpr blank.2, List.append_nil]

/-- Words split at any run of blanks. -/
theorem words_append_blanks_append (some : blanks ≠ []) (behind : List Char) :
    words (text ++ blanks ++ behind) = words text ++ words behind := by
  obtain ⟨c, blanks, rfl⟩ := List.exists_cons_of_ne_nil some
  rw [isBlankText, List.all_cons, Bool.and_eq_true] at blank
  rw [List.append_assoc, List.cons_append, words_append_blank blank.1, words_blanks_append blank.2]

end Around

end BoardMigration.Text
