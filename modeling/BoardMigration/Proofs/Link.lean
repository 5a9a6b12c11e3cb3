import BoardMigration.Link
import BoardMigration.Proofs.Text.Numeral
import BoardMigration.Proofs.Text.Runs

/-! Numbers in the links of a board. A number that stands in the query of a link is read back from it, if
names and values need no decoding. -/
namespace BoardMigration.Link

/-- What a query is cut at, and what stands for other characters in it. -/
def specials : List Char := ['#', '?', '&', '=', '+', '%']

/-- A character that stands for itself. -/
def Plain (c : Char) : Prop := c.toNat < 128 ∧ c ∉ specials

instance (c : Char) : Decidable (Plain c) := inferInstanceAs (Decidable (_ ∧ _))

theorem Plain.ne {c d : Char} (plain : Plain c) (special : d ∈ specials) : c ≠ d :=
  fun same => plain.2 (same ▸ special)

theorem plain_toString (i : Int) : ∀ c ∈ (toString i).toList, Plain c := by
  intro c member
  have range := (Text.isNumeral_toString i c member).range
  refine ⟨by omega, fun special => ?_⟩
  simp only [specials, List.mem_cons, List.not_mem_nil, or_false] at special
  obtain rfl | rfl | rfl | rfl | rfl | rfl := special <;> exact absurd range (by decide)

/-- Every character but a percent sign is one byte. -/
theorem bytes_cons {c : Char} (unescaped : c ≠ '%') (rest : List Char) :
    bytes (c :: rest) = UInt8.ofNat c.toNat :: bytes rest := by
  rw [bytes]
  rintro a b rest rfl
  exact absurd rfl unescaped

theorem bytes_plain {text : List Char} (plain : ∀ c ∈ text, Plain c) :
    bytes text = text.map fun c => UInt8.ofNat c.toNat := by
  induction text with
  | nil => rfl
  | cons c rest ih =>
    rw [List.forall_mem_cons] at plain
    rw [bytes_cons (plain.1.ne (by decide)), ih plain.2, List.map_cons]

theorem scan_ascii {text : List Char} (ascii : ∀ c ∈ text, c.toNat < 128) :
    Text.Utf8.scan none (text.map fun c => UInt8.ofNat c.toNat) = text.map some := by
  induction text with
  | nil => rfl
  | cons c rest ih =>
    rw [List.forall_mem_cons] at ascii
    have small : c.toNat < 128 := ascii.1
    have byte : (UInt8.ofNat c.toNat).toNat = c.toNat := Nat.mod_eq_of_lt (by omega)
    have lead : Text.Utf8.lead (UInt8.ofNat c.toNat) = .single c := by
      simp only [Text.Utf8.lead, byte, if_pos small, Char.ofNat_toNat]
    rw [List.map_cons, Text.Utf8.scan, lead]
    exact congrArg _ (ih ascii.2)

theorem decodeFrom_ascii (held : List Char) {text : List Char} (ascii : ∀ c ∈ text, c.toNat < 128) :
    decodeFrom held text = Text.Utf8.decode (bytes (held.reverse ++ text)) := by
  induction text generalizing held with
  | nil => rw [decodeFrom, List.append_nil]
  | cons c rest ih =>
    rw [List.forall_mem_cons] at ascii
    rw [decodeFrom, if_pos ascii.1, ih _ ascii.2, List.reverse_cons, List.append_assoc]
    rfl

theorem decode_plain {text : List Char} (plain : ∀ c ∈ text, Plain c) : decode text = text := by
  have unspaced : text.map (fun c => if c == '+' then ' ' else c) = text := by
    rw [List.map_congr_left (g := id) fun c member => by simp [(plain c member).ne (show '+' ∈ specials by decide)],
      List.map_id]
  have ascii : ∀ c ∈ text, c.toNat < 128 := fun c member => (plain c member).1
  rw [decode, unspaced, decodeFrom_ascii [] ascii, List.reverse_nil, List.nil_append, bytes_plain plain,
    Text.Utf8.decode, scan_ascii ascii, List.map_map]
  exact List.map_id text

section Split

variable {piece : List Char} (whole : ∀ c ∈ piece, c ≠ '&')

include whole

theorem split_whole : Text.split '&' piece = [piece] := by
  induction piece with
  | nil => rfl
  | cons c piece ih =>
    rw [List.forall_mem_cons] at whole
    rw [Text.split, if_neg (by simpa using whole.1), ih whole.2]

theorem split_append (rest : List Char) : Text.split '&' (piece ++ '&' :: rest) = piece :: Text.split '&' rest := by
  induction piece with
  | nil => rfl
  | cons c piece ih =>
    rw [List.forall_mem_cons] at whole
    rw [List.cons_append, Text.split, if_neg (by simpa using whole.1), ih whole.2]

/-- What stands before the first separator is the first piece. -/
theorem split_run {rest : List Char} (stops : ∀ c ∈ rest.head?, c = '&') :
    ∃ more, Text.split '&' (piece ++ rest) = piece :: more := by
  cases rest with
  | nil => exact ⟨[], by rw [List.append_nil, split_whole whole]⟩
  | cons c rest =>
    obtain rfl := stops c rfl
    exact ⟨_, split_append whole rest⟩

end Split

/-- Pieces without a separator in them are found again between separators. -/
theorem split_intercalate {items : List (List Char)} (whole : ∀ item ∈ items, ∀ c ∈ item, c ≠ '&')
    (filled : items ≠ []) : Text.split '&' (['&'].intercalate items) = items := by
  induction items with
  | nil => exact absurd rfl filled
  | cons item rest ih =>
    rw [List.forall_mem_cons] at whole
    cases rest with
    | nil => rw [List.intercalate_singleton, split_whole whole.1]
    | cons next rest =>
      rw [List.intercalate_cons_cons, List.append_assoc, List.singleton_append, split_append whole.1,
        ih whole.2 (List.cons_ne_nil _ _)]

theorem pair?_plain {field value : List Char} (name : ∀ c ∈ field, Plain c) (inside : ∀ c ∈ value, Plain c)
    (filled : value ≠ []) : pair? (field ++ '=' :: value) = some (field, value) := by
  obtain ⟨c, more, rfl⟩ := List.exists_cons_of_ne_nil filled
  have unequal : ∀ c ∈ field, (c != '=') = true := fun c member => by
    simpa using (name c member).ne (by decide)
  have stops : ∀ d ∈ ('=' :: c :: more).head?, (d != '=') = false := by simp
  rw [pair?, Text.dropWhile_run unequal stops]
  simp only [Text.takeWhile_run unequal stops, decode_plain name, decode_plain inside]

/-- The query stands between the first question mark and the fragment. -/
theorem query_marked {page rest tail : List Char} (front : ∀ c ∈ page, c ≠ '?' ∧ c ≠ '#') (whole : ∀ c ∈ rest, c ≠ '#')
    (ends : ∀ c ∈ tail.head?, c = '#') : query (page ++ '?' :: rest ++ tail) = rest := by
  have unmarked : ∀ c ∈ page, (c != '?') = true := fun c member => by simpa using (front c member).1
  have stops : ∀ c ∈ ('?' :: rest).head?, (c != '?') = false := by simp
  have inside : ∀ c ∈ page ++ '?' :: rest, (c != '#') = true := by
    rw [List.forall_mem_append, List.forall_mem_cons]
    exact ⟨fun c member => by simpa using (front c member).2, by simp, fun c member => by simpa using whole c member⟩
  have kept : (page ++ '?' :: rest ++ tail).takeWhile (· != '#') = page ++ '?' :: rest :=
    Text.takeWhile_run inside fun c first => by simpa using ends c first
  rw [query]
  simp only [kept, Text.dropWhile_run unmarked stops]

/-- Without a question mark all before the fragment is the query. -/
theorem query_unmarked {rest tail : List Char} (whole : ∀ c ∈ rest, c ≠ '?' ∧ c ≠ '#')
    (ends : ∀ c ∈ tail.head?, c = '#') : query (rest ++ tail) = rest := by
  have inside : ∀ c ∈ rest, (c != '#') = true := fun c member => by simpa using (whole c member).2
  have none : rest.dropWhile (· != '?') = [] := by
    rw [List.dropWhile_eq_nil_iff]
    exact fun c member => by simpa using (whole c member).1
  have kept : (rest ++ tail).takeWhile (· != '#') = rest :=
    Text.takeWhile_run inside fun c first => by simpa using ends c first
  rw [query]
  simp only [kept, none]

/-- Whether what stands around a number leaves it alone: page and name need no decoding, and the query ends behind
the number or goes on with another name. -/
def frames (page field rest : List Char) : Bool :=
  page.all (Plain ·) && field.all (Plain ·) && rest.head?.all (· == '&') && rest.all (· != '#')

theorem frames_iff {page field rest : List Char} : frames page field rest = true ↔
    ((((∀ c ∈ page, Plain c) ∧ ∀ c ∈ field, Plain c) ∧ ∀ c ∈ rest.head?, c = '&') ∧ ∀ c ∈ rest, c ≠ '#') := by
  simp only [frames, Bool.and_eq_true, List.all_eq_true, Option.all_eq_true, decide_eq_true_eq, beq_iff_eq, bne_iff_ne]
  rfl

/-- A number that begins the query is read under its name. -/
theorem int?_first {page field rest : List Char} {i : Int} (short : Text.Short i)
    (framed : frames page field rest = true) :
    int? (page ++ '?' :: (field ++ '=' :: (toString i).toList ++ rest)) field = some i := by
  obtain ⟨⟨⟨front, name⟩, stops⟩, whole⟩ := frames_iff.mp framed
  have number := plain_toString i
  have item (d : Char) (special : d ∈ specials) (other : d ≠ '=') :
      ∀ c ∈ field ++ '=' :: (toString i).toList, c ≠ d := by
    rw [List.forall_mem_append, List.forall_mem_cons]
    exact ⟨fun c member => (name c member).ne special, other.symm, fun c member => (number c member).ne special⟩
  obtain ⟨more, cut⟩ := split_run (item '&' (by decide) (by decide)) stops
  have asked : query (page ++ '?' :: (field ++ '=' :: (toString i).toList ++ rest)) =
      field ++ '=' :: (toString i).toList ++ rest := by
    rw [← List.append_nil (page ++ _)]
    exact query_marked (fun c member => ⟨(front c member).ne (by decide), (front c member).ne (by decide)⟩)
      (List.forall_mem_append.mpr ⟨item '#' (by decide) (by decide), whole⟩) (by simp)
  rw [int?, value?, pairs, asked, cut, List.filterMap_cons, pair?_plain name number (Text.toString_ne_nil i)]
  simpa using Text.readInt?_toString short

/-- A fragment is no part of the query. -/
theorem int?_fragment (url fragment field : List Char) : int? (url ++ '#' :: fragment) field = int? url field := by
  have cut : (url ++ '#' :: fragment).takeWhile (· != '#') = url.takeWhile (· != '#') := by
    induction url with
    | nil => rfl
    | cons c rest ih => simp only [List.cons_append, List.takeWhile_cons, ih]
  have same : query (url ++ '#' :: fragment) = query url := by
    simp only [query, cut]
  rw [int?, value?, pairs, same]
  rfl

end BoardMigration.Link
