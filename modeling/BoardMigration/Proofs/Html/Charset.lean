import BoardMigration.Html.Charset
import Mathlib.Data.List.Basic

/-! The length of a decoded page. No character set makes two characters of one byte: a malformed
sequence counts as one character and has at least one byte of its own. -/
namespace BoardMigration.Html

theorem length_mapM_id {α : Type} {l : List (Option α)} {whole : List α}
    (complete : l.mapM id = some whole) : whole.length = l.length := by
  induction l generalizing whole with
  | nil =>
    obtain rfl := Option.some.inj complete
    rfl
  | cons a rest ih =>
    rw [List.mapM_cons] at complete
    obtain ⟨first, -, others⟩ := Option.bind_eq_some_iff.mp complete
    obtain ⟨more, later, same⟩ := Option.bind_eq_some_iff.mp others
    obtain rfl := Option.some.inj same
    simp [ih later]

/-- A sequence under way may end in one more character than there are bytes left. -/
theorem length_scan (underway : Option Text.Utf8.Sequence) (bytes : List UInt8) :
    (Text.Utf8.scan underway bytes).length ≤ bytes.length + underway.toList.length := by
  induction bytes generalizing underway with
  | nil => cases underway <;> simp [Text.Utf8.scan]
  | cons byte rest ih =>
    have fresh := ih none
    have going (sequence : Text.Utf8.Sequence) := ih (some sequence)
    simp only [Option.toList_none, Option.toList_some, List.length_nil,
      List.length_singleton] at fresh going
    cases underway with
    | none =>
      cases leading : Text.Utf8.lead byte with
      | single c => simpa [Text.Utf8.scan, leading] using fresh
      | multi sequence => simpa [Text.Utf8.scan, leading] using going sequence
      | malformed => simpa [Text.Utf8.scan, leading] using fresh
    | some sequence =>
      unfold Text.Utf8.scan
      simp only [Option.toList_some, List.length_cons, List.length_nil]
      split
      · split
        · simp only [List.length_cons]
          omega
        · exact Nat.le_trans (going _) (by omega)
      · split
        · simp only [List.length_cons]
          omega
        · next next leading =>
          have later := going next
          simp only [List.length_cons]
          omega
        · simp only [List.length_cons]
          omega

namespace Charset

theorem length_units16 (bigFirst : Bool) (bytes : List UInt8) :
    (units16 bigFirst bytes).length ≤ bytes.length := by
  fun_induction units16 bigFirst bytes with
  | case1 => exact Nat.le_refl _
  | case2 => exact Nat.le_refl _
  | case3 a b rest high low order ih =>
    simp only [List.length_cons]
    omega

theorem length_chars16 (units : List (Option Nat)) : (chars16 units).length ≤ units.length := by
  fun_induction chars16 units <;> simp only [List.length_cons, List.length_nil] at * <;> omega

theorem length_chars32 (bigFirst : Bool) (bytes : List UInt8) :
    (chars32 bigFirst bytes).length ≤ bytes.length := by
  fun_induction chars32 bigFirst bytes with
  | case1 => exact Nat.le_refl _
  | case2 a b c d rest value ih =>
    simp only [List.length_cons]
    omega
  | case3 bytes some few =>
    cases bytes with
    | nil => exact absurd rfl some
    | cons byte rest => simp

theorem length_scan (bytes : List UInt8) (charset : Charset) :
    (charset.scan bytes).length ≤ bytes.length := by
  have two (bigFirst : Bool) (bytes : List UInt8) :
      (chars16 (units16 bigFirst bytes)).length ≤ bytes.length :=
    Nat.le_trans (length_chars16 _) (length_units16 bigFirst bytes)
  unfold scan
  split
  · next dropMark =>
    refine Nat.le_trans (Html.length_scan none _) ?_
    split <;> simp
  · exact two _ _
  · split
    · exact Nat.le_trans (two _ _) (by simp only [List.length_cons]; omega)
    · exact Nat.le_trans (two _ _) (by simp only [List.length_cons]; omega)
    · exact two _ _
  · exact length_chars32 _ _
  · split
    · exact Nat.le_trans (length_chars32 _ _) (by simp only [List.length_cons]; omega)
    · exact Nat.le_trans (length_chars32 _ _) (by simp only [List.length_cons]; omega)
    · exact length_chars32 _ _
  · simp

end Charset

theorem length_byteOrderMark (bytes : List UInt8) : (byteOrderMark bytes).2.length ≤ bytes.length := by
  unfold byteOrderMark
  split
  · split <;> simp
  · split <;> simp only [List.length_cons] <;> omega
  · simp only [List.length_cons]
    omega
  · simp only [List.length_cons]
    omega
  · exact Nat.le_refl _

/-- A page has no more characters than bytes. -/
theorem length_decodePage (page : List UInt8) : (decodePage page).text.length ≤ page.length := by
  have marked := length_byteOrderMark page
  unfold decodePage
  dsimp only
  generalize (byteOrderMark page).2 = bytes at marked
  refine Nat.le_trans ?_ marked
  generalize _ ++ ["utf-8", "windows-1252"] = names
  cases strict : names.findSome? fun name => (Charset.find? name).bind fun charset =>
      (charset.decode? bytes).map fun text => (⟨text, charset⟩ : DecodedPage) with
  | some found =>
    obtain ⟨name, -, read⟩ := List.exists_of_findSome?_eq_some strict
    obtain ⟨charset, -, decoded⟩ := Option.bind_eq_some_iff.mp read
    obtain ⟨text, complete, rfl⟩ := Option.map_eq_some_iff.mp decoded
    exact Nat.le_trans (Nat.le_of_eq (length_mapM_id complete)) (charset.length_scan bytes)
  | none =>
    cases lenient : names.findSome? fun name => if name == "ascii" then none
        else (Charset.find? name).map fun charset => (⟨charset.decode bytes, charset⟩ : DecodedPage) with
    | some found =>
      obtain ⟨name, -, read⟩ := List.exists_of_findSome?_eq_some lenient
      split at read
      · cases read
      · obtain ⟨charset, -, rfl⟩ := Option.map_eq_some_iff.mp read
        simpa [Charset.decode] using charset.length_scan bytes
    | none => simpa [Text.Utf8.decode] using length_scan none bytes

end BoardMigration.Html
