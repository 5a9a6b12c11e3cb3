import BoardMigration.Console.Listing
import BoardMigration.Proofs.Console.Markup
import BoardMigration.Proofs.Related
import BoardMigration.Proofs.Text.Numeral

/-! Telling of files always goes well: names and errors are escaped, and what stands around them has no
tags but those of a style. -/
namespace BoardMigration.Console

theorem bare_append {first second : List Char} (plain : Bare first) (rest : Bare second) :
    Bare (first ++ second) :=
  List.forall_mem_append.mpr ⟨plain, rest⟩

instance (text : List Char) : Decidable (Bare text) := List.decidableBAll _ text

theorem bare_toString (n : Nat) : Bare (toString n).toList := by
  intro c member
  have digit := Text.isDigit_toString n c member
  constructor <;> rintro rfl <;> exact absurd digit (by decide)

/-- A style that is named by small letters. -/
theorem style_of_letters {c : Char} {more : List Char}
    (letters : (c :: more).all (fun d => 'a' ≤ d && d ≤ 'z') = true)
    (worded : Text.strip (c :: more) ≠ []) : Style (c :: more) where
  worded := worded
  unassigned := by
    intro member
    exact absurd (List.all_eq_true.mp letters '=' member) (by decide)
  begins := by
    have small := List.all_eq_true.mp letters
    refine ⟨c, more, rfl, ?_, ?_, fun d member => ⟨?_, ?_⟩⟩
    · have first := small c List.mem_cons_self
      simp only [beginsTag, first, Bool.true_or]
    · rintro rfl
      exact absurd (small '/' List.mem_cons_self) (by decide)
    · rintro rfl
      exact absurd (small '[' (List.mem_cons_of_mem _ member)) (by decide)
    · rintro rfl
      exact absurd (small ']' (List.mem_cons_of_mem _ member)) (by decide)

namespace Listing

variable (l : Listing) (name : String) (errors : List String)

theorem print_heading : ∃ shown, print (l.heading name errors) = .ok shown := by
  have words : Bare " errors occurred when processing ".toList := by decide
  have slash : Bare "/".toList := by decide
  have colon : Bare ": ".toList := by decide
  have plain := bare_append (bare_append (bare_append (bare_append (bare_append
    (bare_toString errors.length) words) (bare_toString l.done)) slash) (bare_toString l.goal)) colon
  refine print_bare_escape plain name ?_
  simp only [heading, String.toList_append]
  rfl

theorem print_error (error : String) : ∃ shown, print s!"[red]{escape error}[/red]" = .ok shown := by
  have red : Style "red".toList := style_of_letters rfl (by decide)
  refine print_styled_escape red error ?_
  change ("[red]" ++ escape error ++ "[/red]").toList = _
  simp

theorem told_ok : ∃ told, l.told name errors = .ok told := by
  cases errors with
  | nil => exact ⟨[], rfl⟩
  | cons first rest =>
    obtain ⟨printed, done, -⟩ := mapM_forall (f := print) (R := fun _ _ => True)
      ((first :: rest).map (fun error => s!"[red]{escape error}[/red]") ++ [l.heading name (first :: rest)])
      (by
        intro text member
        rcases List.mem_append.mp member with listed | last
        · obtain ⟨error, -, rfl⟩ := List.mem_map.mp listed
          obtain ⟨shown, done⟩ := print_error error
          exact ⟨shown, done, trivial⟩
        · obtain rfl := List.mem_singleton.mp last
          obtain ⟨shown, done⟩ := print_heading l name (first :: rest)
          exact ⟨shown, done, trivial⟩)
    exact ⟨printed.flatten, by simp only [told, List.isEmpty_cons, done]; rfl⟩

theorem report_ok : ∃ next, l.report name errors = .ok next := by
  unfold report
  obtain ⟨told, done⟩ := told_ok { l with done := l.done + 1, errors := l.errors + errors.length } name errors
  exact ⟨_, by simp only [done]; rfl⟩

end Listing
end BoardMigration.Console
