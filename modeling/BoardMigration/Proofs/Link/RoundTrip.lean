import BoardMigration.Proofs.Link
import BoardMigration.Proofs.Text.Utf8

/-! Names and values in the query of a link. Written byte by byte from UTF-8, any pairs of texts are read back,
whatever page and fragment stand around the query: a name has the first value under it that is not empty. -/
namespace BoardMigration.Link

/-- The hexadecimal digit of a value below sixteen, in either case. -/
def hexDigits (n : Nat) : List Char := [n.digitChar, n.digitChar.toUpper]

/-- How a byte stands in a query: escaped, as the letter or digit that it is, or as a plus sign for a space. -/
inductive Shows : List Char → UInt8 → Prop where
  | escaped {byte : UInt8} {high low : Char} (first : high ∈ hexDigits (byte.toNat / 16))
    (second : low ∈ hexDigits (byte.toNat % 16)) : Shows ['%', high, low] byte
  | kept {c : Char} (plain : c.isAlphanum = true) : Shows [c] (UInt8.ofNat c.toNat)
  | space : Shows ['+'] 0x20

inductive Spells : List Char → List UInt8 → Prop where
  | nil : Spells [] []
  | cons {piece written : List Char} {byte : UInt8} {bytes : List UInt8} (stands : Shows piece byte)
    (behind : Spells written bytes) : Spells (piece ++ written) (byte :: bytes)

/-- Whether a text is written in UTF-8 in this way. -/
def Writes (written text : List Char) : Prop := Spells written (text.flatMap String.utf8EncodeChar)

/-- An item of a query that writes a name and its value. -/
inductive Gives : List Char → List Char × List Char → Prop where
  | pair {name value field text : List Char} (named : Writes name field) (valued : Writes value text) :
    Gives (name ++ '=' :: value) (field, text)

/-- Letters, digits and what stands for other characters. -/
def Inert (c : Char) : Prop := c.isAlphanum = true ∨ c = '%' ∨ c = '+'

theorem Inert.ne {c d : Char} (inert : Inert c) (special : d ∈ ['#', '?', '&', '=']) : c ≠ d := by
  have other : d.isAlphanum = false ∧ d ≠ '%' ∧ d ≠ '+' := by
    simp only [List.mem_cons, List.not_mem_nil, or_false] at special
    rcases special with rfl | rfl | rfl | rfl <;> decide
  obtain ⟨plain, percent, plus⟩ := other
  rintro rfl
  rcases inert with letter | rfl | rfl
  · exact Bool.false_ne_true (plain.symm.trans letter)
  · exact percent rfl
  · exact plus rfl

theorem ne_of_alphanum {c d : Char} (plain : c.isAlphanum = true) (special : d.isAlphanum = false) : c ≠ d := by
  rintro rfl
  exact Bool.false_ne_true (special.symm.trans plain)

theorem ascii_of_alphanum {c : Char} (plain : c.isAlphanum = true) : c.toNat < 128 := by
  have below (last : Char) (small : last.toNat < 128) (capped : c.val ≤ last.val) : c.toNat < 128 :=
    Nat.lt_of_le_of_lt (UInt32.le_iff_toNat_le.mp capped) small
  obtain letter | digit := Bool.or_eq_true_iff.mp plain
  · obtain upper | lower := Bool.or_eq_true_iff.mp letter
    · exact below 'Z' (by decide) (of_decide_eq_true upper).2
    · exact below 'z' (by decide) (of_decide_eq_true (Bool.and_eq_true_iff.mp lower).2)
  · exact below '9' (by decide) (of_decide_eq_true (Bool.and_eq_true_iff.mp digit).2)

theorem Inert.ascii {c : Char} (inert : Inert c) : c.toNat < 128 := by
  rcases inert with plain | rfl | rfl
  · exact ascii_of_alphanum plain
  · decide
  · decide

theorem hexValue?_of_mem {n : Nat} (small : n < 16) {c : Char} (digit : c ∈ hexDigits n) :
    hexValue? c = some n ∧ c.isAlphanum = true := by
  have each : ∀ n < 16, (hexDigits n).all (fun c => hexValue? c == some n && c.isAlphanum) = true := by decide
  simpa using List.all_eq_true.mp (each n small) c digit

/-- What a character of a query stands for. -/
def spaced (c : Char) : Char := if c == '+' then ' ' else c

theorem spaced_of_ne {c : Char} (other : c ≠ '+') : spaced c = c := if_neg (by simpa using other)

theorem Inert.ascii_spaced {c : Char} (inert : Inert c) : (spaced c).toNat < 128 := by
  rw [spaced]
  split
  · decide
  · exact inert.ascii

section Spelled

variable {piece written : List Char} {byte : UInt8} {spelt : List UInt8}

theorem Shows.ne_nil (stands : Shows piece byte) : piece ≠ [] := by
  cases stands <;> exact List.cons_ne_nil _ _

theorem Shows.inert (stands : Shows piece byte) : ∀ c ∈ piece, Inert c := by
  cases stands with
  | escaped first second =>
    have high := hexValue?_of_mem (by have := byte.toNat_lt; omega) first
    have low := hexValue?_of_mem (by omega) second
    simp [Inert, high.2, low.2]
  | kept plain => simp [Inert, plain]
  | space => simp [Inert]

theorem Shows.bytes_append (stands : Shows piece byte) (rest : List Char) :
    bytes (piece.map spaced ++ rest) = byte :: bytes rest := by
  cases stands with
  | @escaped _ high low first second =>
    have small := byte.toNat_lt
    obtain ⟨upper, plain⟩ := hexValue?_of_mem (by omega) first
    obtain ⟨lower, plain'⟩ := hexValue?_of_mem (by omega) second
    have whole : 16 * (byte.toNat / 16) + byte.toNat % 16 = byte.toNat := by omega
    have text : ['%', high, low].map spaced = ['%', high, low] := by
      simp [spaced_of_ne (ne_of_alphanum plain (show Char.isAlphanum '+' = false by decide)),
        spaced_of_ne (ne_of_alphanum plain' (show Char.isAlphanum '+' = false by decide)),
        spaced_of_ne (show '%' ≠ '+' by decide)]
    rw [text, List.cons_append, List.cons_append, List.singleton_append, bytes]
    simp only [upper, lower, whole, UInt8.ofNat_toNat]
  | @kept c plain =>
    rw [List.map_singleton, List.singleton_append, spaced_of_ne (ne_of_alphanum plain (by decide)),
      bytes_cons (ne_of_alphanum plain (by decide))]
  | space => exact bytes_cons (c := ' ') (by decide) rest

theorem Spells.inert (spells : Spells written spelt) : ∀ c ∈ written, Inert c := by
  induction spells with
  | nil => exact fun c member => absurd member List.not_mem_nil
  | cons stands _ ih => exact List.forall_mem_append.mpr ⟨stands.inert, ih⟩

theorem Spells.eq_nil_iff (spells : Spells written spelt) : written = [] ↔ spelt = [] := by
  cases spells with
  | nil => exact iff_of_true rfl rfl
  | cons stands _ =>
    exact iff_of_false (fun none => stands.ne_nil (List.append_eq_nil_iff.mp none).1) (List.cons_ne_nil _ _)

theorem Spells.bytes_map (spells : Spells written spelt) : bytes (written.map spaced) = spelt := by
  induction spells with
  | nil => rfl
  | cons stands _ ih => rw [List.map_append, stands.bytes_append, ih]

end Spelled

theorem Writes.eq_nil_iff {written text : List Char} (writes : Writes written text) : written = [] ↔ text = [] := by
  rw [Spells.eq_nil_iff writes, List.flatMap_eq_nil_iff]
  constructor
  · intro none
    refine List.eq_nil_iff_forall_not_mem.mpr fun c member => ?_
    have long := String.length_utf8EncodeChar c
    rw [none c member] at long
    exact absurd long.symm (Char.utf8Size_pos c).ne'
  · rintro rfl c member
    exact absurd member List.not_mem_nil

theorem Writes.decode {written text : List Char} (writes : Writes written text) : decode written = text := by
  have ascii : ∀ c ∈ written.map spaced, c.toNat < 128 :=
    List.forall_mem_map.mpr fun c member => (Spells.inert writes c member).ascii_spaced
  calc Link.decode written
    _ = decodeFrom [] (written.map spaced) := rfl
    _ = Text.Utf8.decode (bytes (written.map spaced)) := decodeFrom_ascii [] ascii
    _ = Text.Utf8.decode (text.flatMap String.utf8EncodeChar) := by rw [Spells.bytes_map writes]
    _ = text := Text.Utf8.decode_utf8 text

section Given

variable {item : List Char} {pair : List Char × List Char}

theorem Gives.ne (gives : Gives item pair) {d : Char} (special : d ∈ ['#', '?', '&']) : ∀ c ∈ item, c ≠ d := by
  have apart : d ∈ ['#', '?', '&', '='] := List.mem_append_left ['='] special
  have equal : '=' ≠ d := by
    rintro rfl
    exact absurd special (by decide)
  cases gives with
  | pair named valued =>
    rw [List.forall_mem_append, List.forall_mem_cons]
    exact ⟨fun c member => (Spells.inert named c member).ne apart, equal,
      fun c member => (Spells.inert valued c member).ne apart⟩

/-- A pair whose value is empty is not read. -/
theorem Gives.pair?_eq (gives : Gives item pair) : pair? item = if pair.2 = [] then none else some pair := by
  cases gives with
  | @pair name value field text named valued =>
    have unequal : ∀ c ∈ name, (c != '=') = true := fun c member => by
      simpa using (Spells.inert named c member).ne (by decide)
    have stops : ∀ d ∈ ('=' :: value).head?, (d != '=') = false := by simp
    rw [pair?, Text.dropWhile_run unequal stops]
    cases value with
    | nil => rw [if_pos (valued.eq_nil_iff.mp rfl)]
    | cons c rest =>
      rw [if_neg (mt valued.eq_nil_iff.mpr (List.cons_ne_nil c rest))]
      simp only [Text.takeWhile_run unequal stops, named.decode, valued.decode]

end Given

section Query

variable {items : List (List Char)} {given : List (List Char × List Char)}

theorem whole_of_written (written : List.Forall₂ Gives items given) : ∀ item ∈ items, ∀ c ∈ item, c ≠ '&' := by
  induction written with
  | nil => exact fun item member => absurd member List.not_mem_nil
  | cons gives _ ih => exact List.forall_mem_cons.mpr ⟨gives.ne (by decide), ih⟩

theorem filterMap_pair? (written : List.Forall₂ Gives items given) :
    items.filterMap pair? = given.filter (!·.2.isEmpty) := by
  induction written with
  | nil => rfl
  | @cons item pair _ _ gives _ ih =>
    rw [List.filterMap_cons, gives.pair?_eq, List.filter_cons, ih]
    by_cases empty : pair.2 = []
    · simp [empty]
    · simp [empty]

/-- Without any item the query is one item that is no pair. -/
theorem filterMap_split (written : List.Forall₂ Gives items given) :
    (Text.split '&' (['&'].intercalate items)).filterMap pair? = given.filter (!·.2.isEmpty) := by
  by_cases none : items = []
  · subst none
    cases written
    rfl
  rw [split_intercalate (whole_of_written written) none, filterMap_pair? written]

/-- Nothing in the query ends it or begins it. -/
theorem intercalate_ne (written : List.Forall₂ Gives items given) :
    ∀ c ∈ ['&'].intercalate items, c ≠ '?' ∧ c ≠ '#' := by
  induction written with
  | nil => exact fun c member => absurd member List.not_mem_nil
  | @cons item _ rest _ gives _ ih =>
    have clear : ∀ c ∈ item, c ≠ '?' ∧ c ≠ '#' := fun c member =>
      ⟨gives.ne (by decide) c member, gives.ne (by decide) c member⟩
    cases rest with
    | nil => rwa [List.intercalate_singleton]
    | cons next rest =>
      have between : ∀ c ∈ ['&'], c ≠ '?' ∧ c ≠ '#' := List.forall_mem_singleton.mpr (by decide)
      rw [List.intercalate_cons_cons]
      exact List.forall_mem_append.mpr ⟨List.forall_mem_append.mpr ⟨clear, between⟩, ih⟩

/-- The value under a name is the first that is not empty. -/
theorem value?_of_query {url : List Char} (written : List.Forall₂ Gives items given)
    (asked : query url = ['&'].intercalate items) (field : List Char) :
    value? url field = (given.find? fun pair => pair.1 == field && !pair.2.isEmpty).map (·.2) := by
  rw [value?, pairs, asked, filterMap_split written, List.find?_filter]
  simp only [Bool.decide_and, Bool.decide_eq_true, Bool.and_comm]

/-- Texts that are written in a query are read back from it, with a page before it or without. -/
theorem value?_query {path fragment : List Char} (front : ∀ c ∈ path, c ≠ '?' ∧ c ≠ '#')
    (written : List.Forall₂ Gives items given) (ends : ∀ c ∈ fragment.head?, c = '#') (field : List Char) :
    let query := ['&'].intercalate items
    let first := (given.find? fun pair => pair.1 == field && !pair.2.isEmpty).map (·.2)
    value? (path ++ '?' :: query ++ fragment) field = first ∧ value? (query ++ fragment) field = first := by
  have whole := intercalate_ne written
  exact ⟨value?_of_query written (query_marked front (fun c member => (whole c member).2) ends) field,
    value?_of_query written (query_unmarked whole ends) field⟩

/-- An escaped letter is the letter, and neither the empty value nor the fragment counts. -/
theorem value?_query_escaped :
    value? "show.php?%69d=&id=%C3%a9+1&id=2#id=3".toList "id".toList = some "é 1".toList ∧
      value? "%69d=&id=%C3%a9+1&id=2#id=3".toList "id".toList = some "é 1".toList := by
  have named : Writes "id".toList "id".toList := .cons (.kept (by decide)) (.cons (.kept (by decide)) .nil)
  have escaped : Writes "%69d".toList "id".toList :=
    .cons (.escaped (by decide) (by decide)) (.cons (.kept (by decide)) .nil)
  have text : Writes "%C3%a9+1".toList "é 1".toList :=
    .cons (.escaped (by decide) (by decide)) (.cons (.escaped (by decide) (by decide))
      (.cons .space (.cons (.kept (by decide)) .nil)))
  have two : Writes "2".toList "2".toList := .cons (.kept (by decide)) .nil
  have written : List.Forall₂ Gives ["%69d=".toList, "id=%C3%a9+1".toList, "id=2".toList]
      [("id".toList, []), ("id".toList, "é 1".toList), ("id".toList, "2".toList)] :=
    .cons (.pair escaped .nil) (.cons (.pair named text) (.cons (.pair named two) .nil))
  exact @value?_query _ _ "show.php".toList "#id=3".toList (by simp) written (by simp) "id".toList

end Query

end BoardMigration.Link
