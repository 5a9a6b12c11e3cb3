import BoardMigration.Page.Cell
import BoardMigration.Proofs.Text.Numeral
import BoardMigration.Proofs.Text.Words

/-! Numbers in table cells. Commas may part the thousands of a number and blanks may surround it. -/
namespace BoardMigration.Page

open Html

/-- Digits with a comma before every three that others stand before. -/
def grouped : List Char → List Char
  | [] => []
  | c :: rest => if rest.length % 3 == 0 && !rest.isEmpty then c :: ',' :: grouped rest else c :: grouped rest

example : grouped "1234567".toList = "1,234,567".toList := by decide

theorem filter_grouped {text : List Char} (plain : ∀ c ∈ text, c ≠ ',') :
    (grouped text).filter (· != ',') = text := by
  fun_induction grouped text with
  | case1 => rfl
  | case2 c rest parted ih =>
    rw [List.forall_mem_cons] at plain
    rw [List.filter_cons_of_pos (by simpa using plain.1), List.filter_cons_of_neg (by simp), ih plain.2]
  | case3 c rest joined ih =>
    rw [List.forall_mem_cons] at plain
    rw [List.filter_cons_of_pos (by simpa using plain.1), ih plain.2]

theorem mem_grouped {text : List Char} {c : Char} (member : c ∈ grouped text) : c = ',' ∨ c ∈ text := by
  fun_induction grouped text with
  | case1 => exact .inr member
  | case2 d rest parted ih =>
    rcases List.mem_cons.mp member with rfl | member
    · exact .inr List.mem_cons_self
    rcases List.mem_cons.mp member with same | member
    · exact .inl same
    · exact (ih member).imp_right (List.mem_cons_of_mem d)
  | case3 d rest joined ih =>
    rcases List.mem_cons.mp member with rfl | member
    · exact .inr List.mem_cons_self
    · exact (ih member).imp_right (List.mem_cons_of_mem d)

/-- Blanks around a text without any do not show. -/
theorem text_of_surrounded {e : Element} {before written behind : List Char} (ahead : Text.isBlankText before = true)
    (after : Text.isBlankText behind = true) (solid : ∀ c ∈ written, Text.isBlank c = false)
    (shown : e.rawText = before ++ written ++ behind) : e.text.toList = written := by
  have same : Text.collapse (before ++ written ++ behind) = Text.collapse written := by
    rw [Text.collapse_eq_iff, Text.words_append_blanks after, Text.words_blanks_append ahead]
  rw [Element.text, String.toList_ofList, shown, same, Text.collapse_of_solid solid]

theorem intCell_surrounded {e : Element} {n : Int} (short : Text.Short n) {before written behind : List Char}
    (form : written = (toString n).toList ∨ written = grouped (toString n).toList)
    (ahead : Text.isBlankText before = true) (after : Text.isBlankText behind = true)
    (shown : e.rawText = before ++ written ++ behind) (what : String) : intCell (some e) what = .ok n := by
  have number := Text.isNumeral_toString n
  have plain : ∀ c ∈ (toString n).toList, c ≠ ',' := by
    intro c member
    have range := (number c member).range
    rintro rfl
    exact absurd range (by decide)
  have uncut : written.filter (· != ',') = (toString n).toList := by
    rcases form with rfl | rfl
    · exact List.filter_eq_self.mpr fun c member => by simpa using plain c member
    · exact filter_grouped plain
  have solid : ∀ c ∈ written, Text.isBlank c = false := by
    rcases form with rfl | rfl
    · exact fun c member => (number c member).solid
    · intro c member
      rcases mem_grouped member with rfl | digit
      · rfl
      · exact (number c digit).solid
  rw [intCell]
  simp only [text_of_surrounded ahead after solid shown, uncut, Text.readInt?_toString short]

end BoardMigration.Page
