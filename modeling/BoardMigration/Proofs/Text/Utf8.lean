import BoardMigration.Text.Utf8
import Mathlib.Data.List.Basic

/-! Reading back what UTF-8 writes. The bytes of a character are read as that character, whatever comes behind
them: the first byte says how many follow and keeps the second in the range that its character needs. -/
namespace BoardMigration.Text.Utf8

open String (utf8EncodeChar)

section Follow

variable {byte : UInt8} {rest : List UInt8} {value owed low high : Nat}

theorem scan_follow (above : low ≤ byte.toNat) (below : byte.toNat ≤ high) :
    scan (some ⟨value, owed + 1, low, high⟩) (byte :: rest) =
      scan (some ⟨value * 64 + (byte.toNat - 0x80), owed, 0x80, 0xBF⟩) rest := by
  rw [scan, if_pos (by simp [above, below])]

theorem scan_last (above : low ≤ byte.toNat) (below : byte.toNat ≤ high) :
    scan (some ⟨value, 0, low, high⟩) (byte :: rest) =
      some (Char.ofNat (value * 64 + (byte.toNat - 0x80))) :: scan none rest := by
  rw [scan, if_pos (by simp [above, below])]

theorem toNat_ofNat {n : Nat} (small : n < 256) : (UInt8.ofNat n).toNat = n := Nat.mod_eq_of_lt small

end Follow

section Lead

variable {n : Nat}

theorem lead_two (low : 0x80 ≤ n) (high : n ≤ 0x7FF) :
    lead (UInt8.ofNat (n / 64 % 32 + 192)) = .multi ⟨n / 64, 0, 0x80, 0xBF⟩ := by
  have byte := toNat_ofNat (n := n / 64 % 32 + 192) (by omega)
  have bits : n / 64 % 32 + 192 - 0xC0 = n / 64 := by omega
  rw [lead, byte, if_neg (by omega), if_neg (by omega), if_pos (by omega), bits]

/-- The range of the second byte keeps out what two bytes could say, and surrogates. -/
theorem lead_three (low : 0x800 ≤ n) (high : n ≤ 0xFFFF) (valid : n < 0xD800 ∨ 0xDFFF < n) :
    ∃ first last, lead (UInt8.ofNat (n / 4096 % 16 + 224)) = .multi ⟨n / 4096, 1, first, last⟩ ∧
      first ≤ n / 64 % 64 + 128 ∧ n / 64 % 64 + 128 ≤ last := by
  have byte := toNat_ofNat (n := n / 4096 % 16 + 224) (by omega)
  have bits : n / 4096 % 16 + 224 - 0xE0 = n / 4096 := by omega
  rw [lead, byte, if_neg (by omega), if_neg (by omega), if_neg (by omega)]
  by_cases short : n / 4096 % 16 + 224 = 0xE0
  · rw [if_pos (beq_iff_eq.mpr short), bits]
    exact ⟨_, _, rfl, by omega, by omega⟩
  rw [if_neg (mt beq_iff_eq.mp short)]
  by_cases near : n / 4096 % 16 + 224 = 0xED
  · rw [if_pos (beq_iff_eq.mpr near), bits]
    exact ⟨_, _, rfl, by omega, by omega⟩
  rw [if_neg (mt beq_iff_eq.mp near), if_pos (by omega), bits]
  exact ⟨_, _, rfl, by omega, by omega⟩

/-- The range of the second byte keeps out what three bytes could say, and what no character is. -/
theorem lead_four (low : 0x10000 ≤ n) (high : n < 0x110000) :
    ∃ first last, lead (UInt8.ofNat (n / 262144 % 8 + 240)) = .multi ⟨n / 262144, 2, first, last⟩ ∧
      first ≤ n / 4096 % 64 + 128 ∧ n / 4096 % 64 + 128 ≤ last := by
  have byte := toNat_ofNat (n := n / 262144 % 8 + 240) (by omega)
  have bits : n / 262144 % 8 + 240 - 0xF0 = n / 262144 := by omega
  rw [lead, byte, if_neg (by omega), if_neg (by omega), if_neg (by omega), if_neg (by simp), if_neg (by simp),
    if_neg (by omega)]
  by_cases short : n / 262144 % 8 + 240 = 0xF0
  · rw [if_pos (beq_iff_eq.mpr short), bits]
    exact ⟨_, _, rfl, by omega, by omega⟩
  rw [if_neg (mt beq_iff_eq.mp short)]
  by_cases inner : n / 262144 % 8 + 240 < 0xF4
  · rw [if_pos inner, bits]
    exact ⟨_, _, rfl, by omega, by omega⟩
  rw [if_neg inner, if_pos (by simp; omega), bits]
  exact ⟨_, _, rfl, by omega, by omega⟩

end Lead

theorem scan_utf8EncodeChar (c : Char) (rest : List UInt8) :
    scan none (utf8EncodeChar c ++ rest) = some c :: scan none rest := by
  have valid : c.toNat < 0xD800 ∨ 0xDFFF < c.toNat ∧ c.toNat < 0x110000 := c.valid
  have whole {n : Nat} (same : n = c.toNat) : some (Char.ofNat n) = some c := by rw [same, Char.ofNat_toNat]
  have tail (n : Nat) : (UInt8.ofNat (n % 64 + 128)).toNat = n % 64 + 128 := toNat_ofNat (by omega)
  have inside (n : Nat) : 0x80 ≤ (UInt8.ofNat (n % 64 + 128)).toNat ∧ (UInt8.ofNat (n % 64 + 128)).toNat ≤ 0xBF := by
    rw [tail]
    omega
  generalize named : c.toNat = n at valid whole
  have value : c.val.toNat = n := named
  rw [utf8EncodeChar, value]
  split
  · next single =>
    have byte := toNat_ofNat (n := n) (by omega)
    have lead : lead (UInt8.ofNat n) = .single c := by
      rw [Utf8.lead, byte, if_pos (by omega), ← named, Char.ofNat_toNat]
    rw [List.singleton_append, scan, lead]
  split
  · next several two =>
    rw [List.cons_append, List.singleton_append, scan, lead_two (by omega) two]
    dsimp only
    rw [scan_last (inside n).1 (inside n).2, tail, whole (by omega)]
  split
  · next several two three =>
    obtain ⟨first, last, lead, above, below⟩ := lead_three (n := n) (by omega) three (by omega)
    rw [List.cons_append, List.cons_append, List.singleton_append, scan, lead]
    dsimp only
    rw [scan_follow (by rwa [tail]) (by rwa [tail]), scan_last (inside n).1 (inside n).2, tail, tail, whole (by omega)]
  · next several two three =>
    obtain ⟨first, last, lead, above, below⟩ := lead_four (n := n) (by omega) (by omega)
    rw [List.cons_append, List.cons_append, List.cons_append, List.singleton_append, scan, lead]
    dsimp only
    rw [scan_follow (by rwa [tail]) (by rwa [tail]), scan_follow (inside _).1 (inside _).2,
      scan_last (inside n).1 (inside n).2, tail, tail, tail, whole (by omega)]

/-- A text is read back from its bytes. -/
theorem decode_utf8 (text : List Char) : decode (text.flatMap utf8EncodeChar) = text := by
  have scanned : scan none (text.flatMap utf8EncodeChar) = text.map some := by
    induction text with
    | nil => rfl
    | cons c rest ih => rw [List.flatMap_cons, scan_utf8EncodeChar, ih, List.map_cons]
  rw [decode, scanned, List.map_map]
  exact List.map_id text

end BoardMigration.Text.Utf8
