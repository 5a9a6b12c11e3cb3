import BoardMigration.Text.Numeral

/-! Numerals as numbers are written: an integer is read back from its digits, if they are not too many. -/
namespace BoardMigration.Text

theorem digitValue?_of_isDigit {c : Char} (digit : c.isDigit = true) : digitValue? c = some (c.toNat - 48) := by
  rw [digitValue?, if_pos digit]
  rfl

theorem range_of_isDigit {c : Char} (digit : c.isDigit = true) : 48 ≤ c.toNat ∧ c.toNat ≤ 57 := by
  simpa [Char.isDigit, UInt32.le_iff_toNat_le] using digit

theorem isDigit_toString (n : Nat) : ∀ c ∈ (toString n).toList, c.isDigit = true := by
  rw [Nat.toString_eq_repr, Nat.toList_repr]
  exact fun c => Nat.isDigit_of_mem_toDigits (by decide) (by decide)

theorem digitGroup?_digits {text : List Char} (some_ : text ≠ []) (digits : ∀ c ∈ text, c.isDigit = true) :
    digitGroup? text = some (text.map (·.toNat - 48)) := by
  induction text with
  | nil => exact absurd rfl some_
  | cons c rest ih =>
    rw [List.forall_mem_cons] at digits
    have first := digitValue?_of_isDigit digits.1
    cases rest with
    | nil => simp [digitGroup?, first]
    | cons d rest =>
      have plain : d ≠ '_' := by
        rintro rfl
        exact absurd (digits.2 '_' List.mem_cons_self) (by decide)
      simp [digitGroup?, plain, first, ih (List.cons_ne_nil d rest) digits.2]

theorem ofDigits_digits (text : List Char) :
    ofDigits 10 (text.map (·.toNat - 48)) = Nat.ofDigitChars 10 text 0 := by
  simp [ofDigits, Nat.ofDigitChars_eq_foldl, List.foldl_map]

/-- Digits are read as the number they stand for. -/
theorem readMagnitude?_digits {text : List Char} (some_ : text ≠ [])
    (digits : ∀ c ∈ text, c.isDigit = true) (short : text.length ≤ maxNumeralDigits) :
    readMagnitude? text = some (Nat.ofDigitChars 10 text 0) := by
  simp [readMagnitude?, digitGroup?_digits some_ digits, short, ofDigits_digits]

theorem trim_self {p : Char → Bool} {text : List Char} (none : ∀ c ∈ text, p c = false) :
    trim p text = text := by
  have keeps (l : List Char) (none : ∀ c ∈ l, p c = false) : l.dropWhile p = l := by
    cases l with
    | nil => rfl
    | cons c rest => simp [none c List.mem_cons_self]
  rw [trim, keeps text none, keeps text.reverse (by simpa using none), List.reverse_reverse]

/-- An integer that is no longer than a numeral may be. -/
def Short (i : Int) : Prop := (Nat.toDigits 10 i.natAbs).length ≤ maxNumeralDigits

instance (i : Int) : Decidable (Short i) := inferInstanceAs (Decidable (_ ≤ _))

theorem toList_toString_ofNat (n : Nat) : (toString (Int.ofNat n)).toList = Nat.toDigits 10 n :=
  Nat.toList_repr

theorem toList_toString_negSucc (n : Nat) :
    (toString (Int.negSucc n)).toList = '-' :: Nat.toDigits 10 (n + 1) := by
  change ("-" ++ Nat.repr (n + 1)).toList = _
  rw [String.toList_append, Nat.toList_repr]
  rfl

/-- The characters of integers. -/
def IsNumeral (c : Char) : Prop := c = '-' ∨ c.isDigit = true

theorem isNumeral_toString (i : Int) : ∀ c ∈ (toString i).toList, IsNumeral c := by
  have digits (n : Nat) : ∀ c ∈ Nat.toDigits 10 n, IsNumeral c :=
    fun c member => .inr (Nat.isDigit_of_mem_toDigits (by decide) (by decide) member)
  cases i with
  | ofNat n =>
    rw [toList_toString_ofNat]
    exact digits n
  | negSucc n =>
    rw [toList_toString_negSucc, List.forall_mem_cons]
    exact ⟨.inl rfl, digits (n + 1)⟩

theorem toString_ne_nil (i : Int) : (toString i).toList ≠ [] := by
  cases i with
  | ofNat n =>
    rw [toList_toString_ofNat]
    exact Nat.toDigits_ne_nil
  | negSucc n =>
    rw [toList_toString_negSucc]
    exact List.cons_ne_nil _ _

theorem IsNumeral.range {c : Char} (numeral : IsNumeral c) :
    c.toNat = 45 ∨ 48 ≤ c.toNat ∧ c.toNat ≤ 57 := by
  rcases numeral with rfl | digit
  · exact .inl rfl
  · exact .inr (range_of_isDigit digit)

theorem IsNumeral.solid {c : Char} (numeral : IsNumeral c) : isBlank c = false := by
  have range := numeral.range
  simp [isBlank]
  omega

theorem IsNumeral.unspaced {c : Char} (numeral : IsNumeral c) : isNumeralSpace c = false := by
  simp [isNumeralSpace, numeral.solid]

/-- An integer is read back from its text. -/
theorem readInt?_toString {i : Int} (short : Short i) : readInt? (toString i).toList = some i := by
  have whole := trim_self (p := isNumeralSpace) fun c member => (isNumeral_toString i c member).unspaced
  have digits (n : Nat) (short : (Nat.toDigits 10 n).length ≤ maxNumeralDigits) :
      readMagnitude? (Nat.toDigits 10 n) = some n := by
    have read := readMagnitude?_digits (Nat.toDigits_ne_nil (n := n))
      (fun c => Nat.isDigit_of_mem_toDigits (by decide) (by decide)) short
    rwa [Nat.ofDigitChars_ten_toDigits] at read
  rw [readInt?, whole]
  cases i with
  | ofNat n =>
    rw [toList_toString_ofNat]
    have unsigned (c : Char) (rest : List Char) (same : Nat.toDigits 10 n = c :: rest) : c.isDigit = true :=
      Nat.isDigit_of_mem_toDigits (b := 10) (n := n) (by decide) (by decide) (same ▸ List.mem_cons_self)
    split
    · next same => exact absurd (unsigned _ _ same) (by decide)
    · next same => exact absurd (unsigned _ _ same) (by decide)
    · rw [digits n short]
      rfl
  | negSucc n =>
    rw [toList_toString_negSucc]
    simp only [digits (n + 1) short]
    rfl

end BoardMigration.Text
