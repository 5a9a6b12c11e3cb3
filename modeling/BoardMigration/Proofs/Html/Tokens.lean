import BoardMigration.Html.Token
import BoardMigration.Proofs.Related
import Mathlib.Data.List.Basic

/-! How many elements a text can open. Every step of the tokenizer leaves a shorter text behind each
start tag it reads, so a text opens no more elements than it has characters. -/
namespace BoardMigration.Html

theorem length_dropWhile_le (p : Char → Bool) (text : List Char) :
    (text.dropWhile p).length ≤ text.length := (List.dropWhile_suffix p).length_le

/-- Whether what is left behind a mark is no longer than the text. -/
def Shortens (close : List Char → Option (List Char)) : Prop :=
  ∀ text after, close text = some after → after.length ≤ text.length

theorem shortens_closeWith (mark : Char) : Shortens (closeWith mark) := by
  intro text after found
  unfold closeWith at found
  split at found
  · cases found
  · split at found
    · obtain rfl := Option.some.inj found
      simp
    · cases found

theorem shortens_closeTag : Shortens closeTag := by
  intro text after found
  have left := shortens_closeWith '>' _ _ found
  have blanks := length_dropWhile_le Text.isBlank text
  omega

theorem shortens_closeComment : Shortens closeComment := by
  intro text after found
  unfold closeComment at found
  split at found
  · have left := shortens_closeTag _ _ found
    simp only [List.length_cons]
    omega
  · cases found

theorem shortens_closeOffice : Shortens closeOffice := by
  intro text after found
  unfold closeOffice at found
  split at found
  · have left := shortens_closeTag _ _ found
    simp only [List.length_cons]
    omega
  · cases found

theorem shortens_closeMarked : Shortens closeMarked := by
  intro text after found
  unfold closeMarked at found
  split at found
  · next rest =>
    have left := shortens_closeOffice _ _ found
    have blanks := length_dropWhile_le Text.isBlank rest
    simp only [List.length_cons]
    omega
  · cases found

theorem shortens_closeRaw (name : List Char) : Shortens (closeRaw name) := by
  intro text after found
  unfold closeRaw at found
  split at found
  · next rest =>
    dsimp only at found
    split at found
    · have left := shortens_closeTag _ _ found
      have blanks := length_dropWhile_le Text.isBlank rest
      simp only [List.length_cons, List.length_drop] at left ⊢
      omega
    · cases found
  · cases found

theorem Shortens.upTo? {close : List Char → Option (List Char)} (shortens : Shortens close)
    {text before after : List Char} (found : upTo? close text = some (before, after)) :
    after.length ≤ text.length := by
  induction text generalizing before with
  | nil =>
    obtain ⟨left, closed, same⟩ := Option.map_eq_some_iff.mp found
    obtain rfl := (Prod.mk.inj same).2
    exact shortens _ _ closed
  | cons c rest ih =>
    unfold Html.upTo? at found
    split at found
    · next left closed =>
      obtain rfl := (Prod.mk.inj (Option.some.inj found)).2
      exact shortens _ _ closed
    · obtain ⟨⟨more, left⟩, later, same⟩ := Option.map_eq_some_iff.mp found
      obtain rfl := (Prod.mk.inj same).2
      have fewer := ih later
      simp only [List.length_cons]
      omega

theorem length_skipBetween (previous : Char) (text : List Char) :
    (skipBetween previous text).2.length ≤ text.length := by
  induction text generalizing previous with
  | nil => exact Nat.le_refl _
  | cons c rest ih =>
    unfold skipBetween
    split
    · have fewer := ih c
      simp only [List.length_cons]
      omega
    · exact Nat.le_refl _

theorem length_bareValue (previous : Char) (text : List Char) :
    (bareValue previous text).rest.length ≤ text.length := length_dropWhile_le _ text

theorem length_attributeValue? {text : List Char} {found : AttributeValue}
    (read : attributeValue? text = some found) : found.rest.length ≤ text.length := by
  unfold attributeValue? at read
  dsimp only at read
  have signsLe := length_dropWhile_le Text.isBlank text
  generalize text.dropWhile Text.isBlank = signs at read signsLe
  have countLe := (List.takeWhile_prefix (· == '=') (l := signs)).length_le
  generalize (signs.takeWhile (· == '=')).length = count at read countLe
  have bodyLe := length_dropWhile_le Text.isBlank (signs.drop count)
  rw [List.length_drop] at bodyLe
  generalize (signs.drop count).dropWhile Text.isBlank = body at read bodyLe
  split at read
  · cases read
  · next signed =>
    have some : 0 < count := by simpa [Nat.pos_iff_ne_zero] using signed
    split at read
    · obtain rfl := Option.some.inj read
      simp
    · next c inner =>
      simp only [List.length_cons] at bodyLe
      split at read
      · split at read
        · next closed =>
          obtain rfl := Option.some.inj read
          have left := (shortens_closeWith c).upTo? closed
          dsimp only
          omega
        · split at read
          · obtain rfl := Option.some.inj read
            simp only [List.length_cons]
            omega
          · split at read
            · obtain rfl := Option.some.inj read
              have bare := length_bareValue '=' ('=' :: c :: inner)
              simp only [List.length_cons] at bare
              omega
            · cases read
      · obtain rfl := Option.some.inj read
        refine Nat.le_trans (length_bareValue _ _) ?_
        simp only [List.length_cons]
        omega

theorem length_attributes (fuel : Nat) (previous : Char) (text : List Char) :
    (attributes fuel previous text).2.length ≤ text.length := by
  induction fuel generalizing previous text with
  | zero => exact Nat.le_refl _
  | succ fuel ih =>
    cases text with
    | nil => exact Nat.le_refl _
    | cons c rest =>
      unfold attributes
      split
      · dsimp only
        generalize rest.takeWhile _ = more
        have behind : (rest.drop more.length).length ≤ rest.length := by simp
        generalize rest.drop more.length = text at behind
        have goesOn (last : Char) {left : List Char} (least : left.length ≤ text.length) :
            (attributes fuel (skipBetween last left).1 (skipBetween last left).2).2.length ≤
              (c :: rest).length := by
          have skipped := length_skipBetween last left
          have others := ih (skipBetween last left).1 (skipBetween last left).2
          simp only [List.length_cons]
          omega
        split
        · next found read => exact goesOn _ (length_attributeValue? read)
        · exact goesOn _ (Nat.le_refl _)
      · exact Nat.le_refl _

def Token.isOpening : Token → Bool
  | .opening _ _ _ => true
  | _ => false

/-- Number of start tags. -/
def openings (tokens : List Token) : Nat := tokens.countP Token.isOpening

@[simp] theorem openings_nil : openings [] = 0 := rfl

@[simp] theorem openings_append (first second : List Token) :
    openings (first ++ second) = openings first + openings second := List.countP_append

theorem openings_singleton_le (token : Token) : openings [token] ≤ 1 := List.countP_le_length

theorem openings_singleton_of_not {token : Token} (other : token.isOpening = false) :
    openings [token] = 0 := by simp [openings, other]

/-- Start tags and characters that a piece leaves. -/
def Piece.weight : Piece → Nat
  | .token found rest => openings [found] + rest.length
  | .nothing rest => rest.length
  | .unfinished => 0

theorem Piece.weight_token {found : Token} {rest : List Char} (other : found.isOpening = false) :
    (Piece.token found rest).weight = rest.length := by
  simp [Piece.weight, openings_singleton_of_not other]

theorem weight_startTag {text : List Char} {piece : Piece} (read : startTag text = .ok piece) :
    piece.weight ≤ text.length := by
  unfold startTag at read
  dsimp only at read
  generalize (text.drop 1).takeWhile _ = name at read
  have skipped := length_skipBetween (name.getLastD '<') ((text.drop 1).drop name.length)
  generalize skipBetween (name.getLastD '<') ((text.drop 1).drop name.length) = between at read skipped
  have less := length_attributes text.length between.1 between.2
  generalize attributes text.length between.1 between.2 = written at read less
  simp only [List.length_drop] at skipped
  -- a start tag is left by at least its opening and its closing bracket
  have tag {selfClosed : Bool} {rest : List Char} (shorter : rest.length + 1 ≤ written.2.length)
      (made : (readAttributes written.1).map (fun found =>
        Piece.token (.opening (lowerName name) found selfClosed) rest) = .ok piece) :
      piece.weight ≤ text.length := by
    cases found : readAttributes written.1 with
    | error e => simp [found, Except.map] at made
    | ok attributes =>
      rw [found] at made
      obtain rfl := Except.ok.inj made
      have one := openings_singleton_le (.opening (lowerName name) attributes selfClosed)
      simp only [Piece.weight]
      omega
  split at read
  · obtain rfl := Except.ok.inj read
    exact Nat.zero_le _
  · next rest final => exact tag (by simp [final]) read
  · next rest final => exact tag (by simp [final]) read
  · split at read
    · obtain rfl := Except.ok.inj read
      exact Nat.zero_le _
    · cases found : readAttributes written.1 with
      | error e => simp [found, Except.map] at read
      | ok attributes =>
        rw [found] at read
        obtain rfl := Except.ok.inj read
        rw [Piece.weight_token rfl]
        omega

theorem length_plainEndTag? {text rest : List Char} {name : String}
    (read : plainEndTag? text = some (name, rest)) : rest.length ≤ text.length := by
  unfold plainEndTag? at read
  dsimp only at read
  split at read
  · obtain ⟨left, ended, same⟩ := Option.map_eq_some_iff.mp read
    obtain rfl := (Prod.mk.inj same).2
    have shorter := shortens_closeTag _ _ ended
    have blanks := length_dropWhile_le Text.isBlank (text.drop 2)
    simp only [List.length_drop] at shorter blanks
    omega
  · cases read

theorem weight_endTag (text : List Char) : (endTag text).weight ≤ text.length := by
  unfold endTag
  split
  · exact Nat.zero_le _
  · next content after found =>
    have left := (shortens_closeWith '>').upTo? found
    rw [List.length_drop] at left
    split
    · next name rest plain =>
      rw [Piece.weight_token rfl]
      exact length_plainEndTag? plain
    · split
      · rw [Piece.weight_token rfl]
        omega
      · split
        · simp only [Piece.weight]
          omega
        · rw [Piece.weight_token rfl]
          omega

theorem weight_markedSection {text : List Char} {piece : Piece}
    (read : markedSection text = .ok piece) : piece.weight ≤ text.length := by
  have marked {close : List Char → Option (List Char)} (shortens : Shortens close)
      {content rest : List Char} (found : upTo? close text = some (content, rest)) :
      (Piece.token (.marked content) rest).weight ≤ text.length := by
    rw [Piece.weight_token rfl]
    exact shortens.upTo? found
  unfold markedSection at read
  dsimp only at read
  split at read
  · obtain rfl := Except.ok.inj read
    exact Nat.zero_le _
  · split at read
    · cases read
    · split at read
      · obtain rfl := Except.ok.inj read
        exact Nat.zero_le _
      · split at read
        · obtain rfl := Except.ok.inj read
          split
          · next found => exact marked shortens_closeMarked found
          · exact Nat.zero_le _
        · split at read
          · obtain rfl := Except.ok.inj read
            split
            · next found => exact marked shortens_closeOffice found
            · exact Nat.zero_le _
          · cases read

theorem weight_closed {make : List Char → Token} (other : ∀ content, (make content).isOpening = false)
    (text : List Char) : (closed make text).weight ≤ text.length := by
  unfold closed
  split
  · next content rest found =>
    rw [Piece.weight_token (other content)]
    exact (shortens_closeWith '>').upTo? found
  · exact Nat.zero_le _

theorem weight_markup {text : List Char} {piece : Piece} (read : markup text = .ok piece) :
    piece.weight ≤ text.length := by
  unfold markup at read
  split at read
  · obtain rfl := Except.ok.inj read
    exact weight_endTag _
  · next rest =>
    split at read
    · next content after found =>
      obtain rfl := Except.ok.inj read
      have left := shortens_closeComment.upTo? found
      rw [Piece.weight_token rfl]
      simp only [List.length_cons]
      omega
    · obtain rfl := Except.ok.inj read
      exact Nat.zero_le _
  · next rest =>
    obtain rfl := Except.ok.inj read
    have left : (closed .instruction rest).weight ≤ rest.length := weight_closed (fun _ => rfl) rest
    simp only [List.length_cons]
    omega
  · next rest _ =>
    have left := weight_markedSection read
    simp only [List.length_cons]
    omega
  · next rest _ _ =>
    dsimp only at read
    split at read
    · split at read
      · next content after found =>
        obtain rfl := Except.ok.inj read
        have left := (shortens_closeWith '>').upTo? found
        rw [Piece.weight_token rfl]
        simp only [List.length_cons, List.length_drop] at left ⊢
        omega
      · obtain rfl := Except.ok.inj read
        exact Nat.zero_le _
    · obtain rfl := Except.ok.inj read
      have left : (closed .comment rest).weight ≤ rest.length := weight_closed (fun _ => rfl) rest
      simp only [List.length_cons]
      omega
  · split at read
    · exact weight_startTag read
    · obtain rfl := Except.ok.inj read
      rw [Piece.weight_token rfl]
      simp
  · obtain rfl := Except.ok.inj read
    exact Nat.zero_le _

theorem length_asText (text : List Char) : (asText text).2.length ≤ text.length := by
  unfold asText
  split
  · exact Nat.le_refl _
  · next c rest =>
    split
    · next content after found =>
      have left := (shortens_closeWith '>').upTo? found
      simp only [List.length_cons]
      omega
    · split
      · simp
      · have left := length_dropWhile_le (· != '<') rest
        simp only [List.length_cons]
        omega

theorem length_semicolon (text : List Char) : (semicolon text).2.length ≤ text.length := by
  unfold semicolon
  split <;> simp

/-- Start tags and characters that a step leaves. -/
def Advance.weight : Advance → Nat
  | .on tokens _ rest => openings tokens + rest.length
  | .stop tokens rest => openings tokens + rest.length

theorem weight_advanceMarkup {again : Bool} {text : List Char} {step : Advance}
    (read : advanceMarkup again text = .ok step) : step.weight ≤ text.length := by
  unfold advanceMarkup at read
  split at read
  · cases read
  · next rest found =>
    obtain rfl := Except.ok.inj read
    have left := weight_markup found
    simpa [Advance.weight, Piece.weight] using left
  · next found =>
    obtain rfl := Except.ok.inj read
    exact weight_markup found
  · next found =>
    obtain rfl := Except.ok.inj read
    exact weight_markup found
  · split at read
    · obtain rfl := Except.ok.inj read
      have left := length_asText text
      rw [Advance.weight, openings_singleton_of_not rfl, Nat.zero_add]
      exact left
    · obtain rfl := Except.ok.inj read
      simp [Advance.weight]

theorem weight_numericReference {text : List Char} {step : Advance}
    (read : numericReference text = .ok step) : step.weight ≤ text.length := by
  have finish (value : Nat) {rest : List Char} (shorter : rest.length ≤ text.length) :
      (Advance.on [.number value] none (semicolon rest).2).weight ≤ text.length := by
    have left := length_semicolon rest
    rw [Advance.weight, openings_singleton_of_not rfl]
    omega
  have fail : (if (text.drop 2).contains ';' then Advance.stop [.text ['&', '#']] (text.drop 2)
      else .stop [] text).weight ≤ text.length := by
    split
    · rw [Advance.weight, openings_singleton_of_not rfl, List.length_drop]
      omega
    · simp [Advance.weight]
  have behind : (text.drop 2).length ≤ text.length := by simp
  unfold numericReference at read
  dsimp only at read
  split at read
  · next x digits body =>
    rw [body] at behind
    simp only [List.length_cons] at behind
    split at read
    · obtain rfl := Except.ok.inj read
      split
      · exact fail
      · exact finish _ (by rw [List.length_drop]; omega)
    · split at read
      · obtain rfl := Except.ok.inj read
        exact fail
      · split at read
        · cases read
        · obtain rfl := Except.ok.inj read
          exact finish _ (by simp only [List.length_drop]; omega)
  · obtain rfl := Except.ok.inj read
    exact fail

theorem weight_namedReference (again : Bool) (text : List Char) :
    (namedReference again text).weight ≤ text.length := by
  have finish (name : List Char) {rest : List Char} (shorter : rest.length ≤ text.length) :
      (Advance.on [.text ((named? name).getD ('&' :: name))] none (semicolon rest).2).weight ≤
        text.length := by
    have left := length_semicolon rest
    rw [Advance.weight, openings_singleton_of_not rfl]
    omega
  unfold namedReference
  dsimp only
  split
  · split
    · exact finish _ (by simp only [List.length_drop]; omega)
    · split
      · exact finish _ (by simp only [List.length_drop]; omega)
      · split <;> simp [Advance.weight]
  · split
    · simp [Advance.weight]
    · rw [Advance.weight, openings_singleton_of_not rfl, List.length_drop]
      omega

theorem weight_advanceRaw (name : String) (text : List Char) :
    (advanceRaw name text).weight ≤ text.length := by
  unfold advanceRaw
  split
  · simp [Advance.weight]
  · next content rest found =>
    have left := (shortens_closeRaw name.toList).upTo? found
    have noOpening : openings (if content.isEmpty then [] else [Token.text content]) = 0 := by
      split <;> rfl
    dsimp only
    split
    · next closingName after plain =>
      have shorter := length_plainEndTag? plain
      rw [List.length_drop] at shorter
      rw [Advance.weight, openings_append, noOpening, openings_singleton_of_not rfl]
      omega
    · rw [Advance.weight, openings_append, noOpening, openings_singleton_of_not rfl]
      omega

theorem weight_advance {again : Bool} {raw : Option String} {text : List Char} {step : Advance}
    (read : advance again raw text = .ok step) : step.weight ≤ text.length := by
  unfold advance at read
  split at read
  · obtain rfl := Except.ok.inj read
    exact weight_advanceRaw _ _
  · split at read
    · exact weight_advanceMarkup read
    · exact weight_numericReference read
    · obtain rfl := Except.ok.inj read
      exact weight_namedReference _ _
    · obtain rfl := Except.ok.inj read
      rw [Advance.weight, openings_singleton_of_not rfl, List.length_drop]
      omega

theorem openings_pass {again : Bool} {fuel : Nat} {raw : Option String} {text : List Char}
    {found : List Token} {leftover : Leftover} (read : pass again fuel raw text = .ok (found, leftover)) :
    openings found + leftover.rest.length ≤ text.length := by
  induction fuel generalizing raw text found with
  | zero =>
    obtain ⟨rfl, rfl⟩ := Prod.mk.inj (Except.ok.inj read)
    simp
  | succ fuel ih =>
    cases text with
    | nil =>
      obtain ⟨rfl, rfl⟩ := Prod.mk.inj (Except.ok.inj read)
      simp
    | cons c text =>
      unfold pass at read
      split at read
      · cases read
      · next step =>
        obtain ⟨rfl, rfl⟩ := Prod.mk.inj (Except.ok.inj read)
        exact weight_advance step
      · next tokens raw rest step =>
        have here := weight_advance step
        split at read
        · cases read
        · next more leftover later =>
          obtain ⟨rfl, rfl⟩ := Prod.mk.inj (Except.ok.inj read)
          have there := ih later
          rw [Advance.weight] at here
          rw [openings_append]
          omega

/-- A text opens no more elements than it has characters. -/
theorem openings_tokens {text : List Char} {found : List Token} (read : tokens text = .ok found) :
    openings found ≤ text.length := by
  unfold tokens at read
  obtain ⟨⟨first, stopped⟩, once, read⟩ := bind_ok read
  obtain ⟨⟨second, ended⟩, twice, read⟩ := bind_ok read
  obtain rfl := Except.ok.inj read
  have before := openings_pass once
  have behind := openings_pass twice
  have final : openings (if ended.raw.isSome || ended.rest.isEmpty then []
      else [Token.text ended.rest]) = 0 := by
    split <;> rfl
  rw [openings_append, openings_append, final]
  omega

end BoardMigration.Html
