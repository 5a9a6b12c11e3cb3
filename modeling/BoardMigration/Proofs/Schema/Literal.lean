import BoardMigration.Proofs.Text.Numeral
import BoardMigration.Proofs.Text.Runs
import BoardMigration.Schema.Literal

/-! Literals are read back. A quote inside a string is doubled, so the first single one is the one behind the
string, and no text can end its own literal. Hence a row of literals is read back as the values it was written
from, and as no other row. -/
namespace BoardMigration.Schema

section Quoted

variable {c : Char} {text rest : List Char}

theorem doubleQuotes_quote (text : List Char) : doubleQuotes ('\'' :: text) = '\'' :: '\'' :: doubleQuotes text := rfl

theorem doubleQuotes_cons (other : c ≠ '\'') (text : List Char) :
    doubleQuotes (c :: text) = c :: doubleQuotes text := by
  rw [doubleQuotes, if_neg (by simpa using other)]

theorem readQuoted_pair (text : List Char) :
    readQuoted ('\'' :: '\'' :: text) = (readQuoted text).map fun (s, rest) => ('\'' :: s, rest) := by
  rw [readQuoted]

theorem readQuoted_end (stops : ∀ c ∈ rest.head?, c ≠ '\'') : readQuoted ('\'' :: rest) = some ([], rest) := by
  rw [readQuoted]
  rintro behind rfl
  exact stops '\'' rfl rfl

theorem readQuoted_cons (other : c ≠ '\'') (text : List Char) :
    readQuoted (c :: text) = (readQuoted text).map fun (s, rest) => (c :: s, rest) := by
  rw [readQuoted]
  · rintro behind rfl
    exact absurd rfl other
  · exact other

/-- The reader is at the same place of the text as the writer whenever it stands before a character of the
string, so the claim is about every rest of the string. -/
theorem readQuoted_doubleQuotes (stops : ∀ c ∈ rest.head?, c ≠ '\'') (text : List Char) :
    readQuoted (doubleQuotes text ++ '\'' :: rest) = some (text, rest) := by
  induction text with
  | nil => exact readQuoted_end stops
  | cons c text ih =>
    by_cases quote : c = '\''
    · rw [quote, doubleQuotes_quote, List.cons_append, List.cons_append, readQuoted_pair, ih]
      rfl
    · rw [doubleQuotes_cons quote, List.cons_append, readQuoted_cons quote, ih]
      rfl

theorem readString_stringLiteral (stops : ∀ c ∈ rest.head?, c ≠ '\'') (text : List Char) :
    readString (stringLiteral text ++ rest) = some (text, rest) := by
  have whole : stringLiteral text ++ rest = '\'' :: (doubleQuotes text ++ '\'' :: rest) := by simp [stringLiteral]
  rw [whole, readString, readQuoted_doubleQuotes stops]

end Quoted

/-- What cannot go on with a literal that stands before it. -/
def Ends (rest : List Char) : Prop := ∀ c ∈ rest.head?, c ≠ '\'' ∧ c.isDigit = false

theorem digits_toDigits {rest : List Char} (ends : Ends rest) (n : Nat) :
    digits (Nat.toDigits 10 n ++ rest) = some (n, rest) := by
  have inside : ∀ c ∈ Nat.toDigits 10 n, c.isDigit = true :=
    fun c => Nat.isDigit_of_mem_toDigits (by decide) (by decide)
  have run : (Nat.toDigits 10 n ++ rest).takeWhile Char.isDigit = Nat.toDigits 10 n :=
    Text.takeWhile_run inside fun c first => (ends c first).2
  have value : (Nat.toDigits 10 n).foldl (fun n d => 10 * n + (d.toNat - 48)) 0 = n := by
    have read := Text.ofDigits_digits (Nat.toDigits 10 n)
    rwa [Text.ofDigits, List.foldl_map, Nat.ofDigitChars_ten_toDigits] at read
  simp [digits, run, value]

theorem readLiteral_quote (text : List Char) : readLiteral ('\'' :: text) =
    (readString ('\'' :: text)).map fun (s, rest) => (.text (String.ofList s), rest) := rfl

theorem readLiteral_minus (text : List Char) :
    readLiteral ('-' :: text) = (digits text).map fun (n, rest) => (.int (-n), rest) := rfl

theorem readLiteral_digit {c : Char} (digit : c.isDigit = true) (text : List Char) :
    readLiteral (c :: text) = (digits (c :: text)).map fun (n, rest) => (.int n, rest) := by
  have range := Text.range_of_isDigit digit
  rw [readLiteral]
  all_goals
    rintro behind same
    obtain rfl := (List.cons.inj same).1
    exact absurd range (by decide)

/-- A value is read back from its literal, and what follows is left. -/
theorem readLiteral_literal {rest : List Char} (ends : Ends rest) (value : Value) :
    readLiteral ((literal value).toList ++ rest) = some (value, rest) := by
  cases value with
  | null => rfl
  | text s =>
    have whole : (literal (.text s)).toList = '\'' :: doubleQuotes s.toList ++ ['\''] := String.toList_ofList
    have read := readString_stringLiteral (fun c first => (ends c first).1) s.toList
    rw [stringLiteral] at read
    rw [whole, List.cons_append, List.cons_append, readLiteral_quote, ← List.cons_append, ← List.cons_append, read]
    simp
  | int n =>
    cases n with
    | ofNat n =>
      have whole : (literal (.int (Int.ofNat n))).toList = Nat.toDigits 10 n := Text.toList_toString_ofNat n
      have read := digits_toDigits ends n
      have inside : ∀ c ∈ Nat.toDigits 10 n, c.isDigit = true :=
        fun c => Nat.isDigit_of_mem_toDigits (by decide) (by decide)
      obtain ⟨c, more, same⟩ := List.exists_cons_of_ne_nil (Nat.toDigits_ne_nil (b := 10) (n := n))
      rw [same] at inside read
      rw [whole, same, List.cons_append, readLiteral_digit (inside c List.mem_cons_self), ← List.cons_append, read]
      rfl
    | negSucc n =>
      have whole : (literal (.int (Int.negSucc n))).toList = '-' :: Nat.toDigits 10 (n + 1) :=
        Text.toList_toString_negSucc n
      rw [whole, List.cons_append, readLiteral_minus, digits_toDigits ends]
      rfl

/-- Literals with commas between them. -/
def literalRow (values : List Value) : List Char := (commas (values.map literal)).toList

theorem literalRow_single (value : Value) : literalRow [value] = (literal value).toList := by
  simp [literalRow, commas]

theorem literalRow_cons_cons (value next : Value) (values : List Value) :
    literalRow (value :: next :: values) = (literal value).toList ++ ',' :: ' ' :: literalRow (next :: values) := by
  simp [literalRow, commas, String.toList_intercalate]

theorem behind?_comma (rest : List Char) : behind? ", " (',' :: ' ' :: rest) = some rest := by
  have two : ", ".length = 2 := by decide
  simp [behind?, two]

theorem readLiterals_cons {value : Value} {text rest : List Char} (count : Nat)
    (first : readLiteral text = some (value, ',' :: ' ' :: rest)) : readLiterals (count + 2) text =
      (readLiterals (count + 1) rest).map fun (values, left) => (value :: values, left) := by
  rw [readLiterals, first]
  simp only [Option.bind_eq_bind, Option.bind_some, behind?_comma]
  cases readLiterals (count + 1) rest <;> rfl
  simp

theorem readLiterals_literalRow {rest : List Char} (ends : Ends rest) (values : List Value) :
    readLiterals values.length (literalRow values ++ rest) = some (values, rest) := by
  induction values with
  | nil => rfl
  | cons value values ih =>
    cases values with
    | nil =>
      rw [literalRow_single, List.length_singleton, readLiterals, readLiteral_literal ends]
      rfl
    | cons next values =>
      have between : Ends (',' :: ' ' :: (literalRow (next :: values) ++ rest)) := by simp [Ends]
      have first := readLiteral_literal between value
      rw [List.length_cons] at ih
      rw [literalRow_cons_cons, List.append_assoc, List.length_cons, List.length_cons, List.cons_append,
        List.cons_append, readLiterals_cons _ first, ih]
      rfl

/-- Behind the first literal the text ends, or a comma and another literal follow. -/
theorem of_readLiterals_succ {text : List Char} {values : List Value} {count : Nat}
    (read : readLiterals (count + 1) text = some (values, [])) : ∃ value rest others,
      readLiteral text = some (value, rest) ∧ values = value :: others ∧
        (rest = [] ∧ count = 0 ∧ others = [] ∨
          ∃ next, behind? ", " rest = some next ∧ readLiterals count next = some (others, [])) := by
  cases count with
  | zero =>
    obtain ⟨⟨value, rest⟩, found, same⟩ := Option.map_eq_some_iff.mp read
    obtain ⟨rfl, rfl⟩ := Prod.mk.inj same
    exact ⟨value, [], [], found, rfl, .inl ⟨rfl, rfl, rfl⟩⟩
  | succ count =>
    rw [readLiterals] at read
    · simp only [Option.bind_eq_bind, Option.bind_eq_some_iff, Option.pure_def, Option.some.injEq,
        Prod.mk.injEq] at read
      obtain ⟨⟨value, rest⟩, found, next, comma, ⟨others, left⟩, later, rfl, rfl⟩ := read
      exact ⟨value, rest, others, found, rfl, .inr ⟨next, comma, later⟩⟩
    · simp

theorem of_readLiterals_zero {text rest : List Char} {values : List Value}
    (read : readLiterals 0 text = some (values, rest)) : text = rest ∧ values = [] := by
  obtain ⟨none, same⟩ := Prod.mk.inj (Option.some.inj read)
  exact ⟨same, none.symm⟩

theorem ne_nil_of_readLiterals_succ {text : List Char} {values : List Value} {count : Nat}
    (read : readLiterals (count + 1) text = some (values, [])) : text ≠ [] := by
  rintro rfl
  obtain ⟨_, _, _, found, -⟩ := of_readLiterals_succ read
  cases found

/-- A text is read to its end as one row only, whatever number of values is asked for. -/
theorem readLiterals_unique {text : List Char} {count other : Nat} {values others : List Value}
    (read : readLiterals count text = some (values, [])) (again : readLiterals other text = some (others, [])) :
    count = other ∧ values = others := by
  induction count generalizing text other values others with
  | zero =>
    obtain ⟨none, rfl⟩ := of_readLiterals_zero read
    cases other with
    | zero => exact ⟨rfl, (of_readLiterals_zero again).2.symm⟩
    | succ other => exact absurd none (ne_nil_of_readLiterals_succ again)
  | succ count ih =>
    cases other with
    | zero => exact absurd (of_readLiterals_zero again).1 (ne_nil_of_readLiterals_succ read)
    | succ other =>
      obtain ⟨value, rest, more, found, rfl, behind⟩ := of_readLiterals_succ read
      obtain ⟨value', rest', more', found', rfl, behind'⟩ := of_readLiterals_succ again
      obtain ⟨rfl, rfl⟩ := Prod.mk.inj (Option.some.inj (found.symm.trans found'))
      rcases behind with ⟨none, rfl, rfl⟩ | ⟨next, comma, later⟩
      · rcases behind' with ⟨-, rfl, rfl⟩ | ⟨next, comma, -⟩
        · exact ⟨rfl, rfl⟩
        · rw [none] at comma
          cases comma
      · rcases behind' with ⟨none, -⟩ | ⟨next', comma', later'⟩
        · rw [none] at comma
          cases comma
        · obtain rfl := Option.some.inj (comma.symm.trans comma')
          obtain ⟨rfl, rfl⟩ := ih later later'
          exact ⟨rfl, rfl⟩

/-- No text ends its own literal: the reader finds exactly the string and stops where the literal ends. So no two
strings share a literal, and a row of literals is read to its end as that row only. -/
theorem readString_literal {rest : List Char} (stops : ∀ c ∈ rest.head?, c ≠ '\'') (s : String) :
    readString ((literal (.text s)).toList ++ rest) = some (s.toList, rest) ∧
      (∀ t, literal (.text t) = literal (.text s) ↔ t = s) ∧
      ∀ values count others, readLiterals count (commas (values.map literal)).toList = some (others, []) ↔
        count = values.length ∧ others = values := by
  have alone : Ends [] := by simp [Ends]
  refine ⟨?_, ?_, ?_⟩
  · have read := readString_stringLiteral stops s.toList
    rwa [literal, String.toList_ofList]
  · intro t
    constructor
    · intro same
      have read := readLiteral_literal alone (.text t)
      rw [same, readLiteral_literal alone (.text s)] at read
      simpa using read.symm
    · rintro rfl
      rfl
  · intro values count others
    have written := readLiterals_literalRow alone values
    rw [List.append_nil] at written
    constructor
    · intro read
      exact readLiterals_unique read written
    · rintro ⟨rfl, rfl⟩
      exact written

/-- A text that pretends to end its literal and to begin another. -/
theorem readString_literal_escape : (∀ c ∈ ", 0)".toList.head?, c ≠ '\'') ∧
    readString ((literal (.text "x', 1); --''")).toList ++ ", 0)".toList) =
      some ("x', 1); --''".toList, ", 0)".toList) := by
  have stops : ∀ c ∈ ", 0)".toList.head?, c ≠ '\'' := by simp
  exact ⟨stops, (readString_literal stops "x', 1); --''").1⟩

end BoardMigration.Schema
