import BoardMigration.Proofs.BBCode.Marks
import BoardMigration.Proofs.Html.Comments
import BoardMigration.Proofs.Text.Blanks

/-! What a message becomes. Its codes are nested, and without them and without blanks it says what the texts and
images of the message say; the content of a code box stays as it is. -/
namespace BoardMigration.BBCode

open Html

def isCodeBox (tag : Tag) : Bool := tag.name == "div" && tag.hasClass "codebox"

/-- What an image says: a picture its address, a smiley its text. -/
def imageText (tag : Tag) : List Char :=
  if tag.name = "img" then (tag.value (if isPicture tag then "src" else "alt")).toList else []

/-- All texts but comments, and what images say, outside of headings. -/
def said : Nodes → List Char
  | .nil => []
  | .text kind content next => (if kind = .comment then [] else content.toList) ++ said next
  | .element tag inside next => (if tag.name = "h4" then [] else imageText tag ++ said inside) ++ said next

/-- What is inside the code boxes outside of headings. -/
def codeBoxes : Nodes → List Nodes
  | .nil => []
  | .text _ _ next => codeBoxes next
  | .element tag inside next =>
    (if tag.name = "h4" then [] else (if isCodeBox tag then [inside] else []) ++ codeBoxes inside) ++ codeBoxes next

/-- No brackets in texts, addresses and the texts of images. -/
def Unbracketed : Nodes → Prop
  | .nil => True
  | .text kind content next => (kind ≠ .comment → ∀ c ∈ content.toList, Bare c) ∧ Unbracketed next
  | .element tag inside next =>
    (∀ name ∈ ["href", "src", "alt"], ∀ c ∈ (tag.value name).toList, Bare c) ∧ Unbracketed inside ∧ Unbracketed next

/-- Nothing is inside images and line breaks. -/
def Childless : Nodes → Prop
  | .nil => True
  | .text _ _ next => Childless next
  | .element tag inside next => (tag.name ∈ ["img", "br"] → inside = .nil) ∧ Childless inside ∧ Childless next

instance : (nodes : Nodes) → Decidable (Unbracketed nodes)
  | .nil => isTrue trivial
  | .text _ _ next =>
    have := instDecidableUnbracketed next
    inferInstanceAs (Decidable (_ ∧ _))
  | .element _ inside next =>
    have := instDecidableUnbracketed inside
    have := instDecidableUnbracketed next
    inferInstanceAs (Decidable (_ ∧ _))

instance : (nodes : Nodes) → Decidable (Childless nodes)
  | .nil => isTrue trivial
  | .text _ _ next => instDecidableChildless next
  | .element _ inside next =>
    have := instDecidableChildless inside
    have := instDecidableChildless next
    inferInstanceAs (Decidable (_ ∧ _))

/-- Elements that have no code of their own. -/
structure Uncoded (tag : Tag) : Prop where
  name : tag.name ∉ ["a", "b", "strong", "i", "em", "blockquote", "br", "p", "img"]
  underlined : ¬(tag.name = "span" ∧ tag.hasClass "bbu" = true)
  boxed : isCodeBox tag = false

/-- Only texts and elements without a code of their own outside of headings. -/
def Simple : Nodes → Prop
  | .nil => True
  | .text _ _ next => Simple next
  | .element tag inside next => (tag.name = "h4" ∨ Uncoded tag ∧ Simple inside) ∧ Simple next

/-- A simple code box and what follows its opening code: the texts of the box as they are, and the closing code. -/
def SetOff (box : Nodes) (behind : List Piece) : Prop :=
  Simple box → (said box).map .char ++ [.code ('/' :: Code.codeBox.name)] <+: behind

theorem Unbracketed.gather {nodes : Nodes} (unbracketed : Unbracketed nodes) {accept : TextKind → Bool}
    (refuses : accept .comment = false) : ∀ c ∈ nodes.gather accept, Bare c := by
  induction nodes with
  | nil => exact fun c member => absurd member List.not_mem_nil
  | text kind content next ih =>
    obtain ⟨here, behind⟩ := unbracketed
    cases accepted : accept kind with
    | false => simpa [Nodes.gather, accepted] using ih behind
    | true =>
      have shown : kind ≠ .comment := by
        rintro rfl
        exact absurd (accepted.symm.trans refuses) (by decide)
      simp only [Nodes.gather, accepted, ↓reduceIte, List.forall_mem_append]
      exact ⟨here shown, ih behind⟩
  | element tag inside next ihInside ihNext =>
    obtain ⟨-, within, behind⟩ := unbracketed
    simp only [Nodes.gather, List.forall_mem_append]
    exact ⟨ihInside within, ihNext behind⟩

theorem Unbracketed.children {nodes : Nodes} (unbracketed : Unbracketed nodes) {above : List Tag} :
    ∀ e ∈ nodes.children above, Unbracketed e.inside := by
  induction nodes with
  | nil => exact fun e member => absurd member List.not_mem_nil
  | text kind content next ih => exact ih unbracketed.2
  | element tag inside next _ ih =>
    rw [Nodes.children, List.forall_mem_cons]
    exact ⟨unbracketed.2.1, ih unbracketed.2.2⟩

theorem bare_collapse {text : List Char} (bare : ∀ c ∈ text, Bare c) : ∀ c ∈ Text.collapse text, Bare c := by
  intro c member
  rcases Text.mem_collapse member with rfl | inside
  · decide
  · exact bare c inside

theorem bare_author {heading : Element} (unbracketed : Unbracketed heading.inside) :
    ∀ c ∈ author heading, Bare c := by
  have name := bare_collapse (unbracketed.gather (Element.shownIn_comment heading.tag))
  unfold author
  dsimp only
  split
  · exact fun c member => name c (List.mem_of_mem_take member)
  · exact name

theorem unbracketed_quoteHeading {inside : Nodes} {heading : Element} (unbracketed : Unbracketed inside)
    (found : quoteHeading? inside = some heading) : Unbracketed heading.inside := by
  obtain ⟨box, first, second⟩ := Option.bind_eq_some_iff.mp (Option.filter_eq_some_iff.mp found).1
  have within := unbracketed.children box (List.mem_of_head? first)
  exact within.children heading (List.mem_of_head? second)

/-- A quote is opened with its author or without an argument. -/
theorem quoteOpening_written {inside : Nodes} (unbracketed : Unbracketed inside) :
    ∃ argument : Option (List Char), (∀ text ∈ argument, ∀ c ∈ text, Bare c) ∧
      quoteOpening inside = (Piece.code (Code.quote.body argument)).written := by
  unfold quoteOpening
  split
  · exact ⟨none, nofun, Code.quote.written_opening.symm⟩
  · exact ⟨none, nofun, Code.quote.written_opening.symm⟩
  · next name _ named =>
    obtain ⟨heading, found, rfl⟩ := Option.map_eq_some_iff.mp named
    have bare := bare_author (unbracketed_quoteHeading unbracketed found)
    refine ⟨some (author heading), ?_, (Code.quote.written_openingWith _).symm⟩
    rintro text ⟨⟩
    exact bare

/-- An element whose content goes into the text. -/
structure Entered (tag : Tag) (boxed : Bool) : Prop where
  heading : tag.name ≠ "h4"
  image : tag.name ≠ "img"
  box : isCodeBox tag = boxed

/-- What can become of an element without brackets. -/
inductive Treated (tag : Tag) : Treatment → Prop where
  | pair (code : Code) (argument : Option (List Char)) (entered : Entered tag false) (other : code ≠ .codeBox)
    (bare : ∀ text ∈ argument, ∀ c ∈ text, Bare c) :
    Treated tag (.wrap (Piece.code (code.body argument)).written code false)
  | box (entered : Entered tag true) : Treated tag (.wrap Code.codeBox.opening .codeBox true)
  | content (entered : Entered tag false) : Treated tag .content
  | paragraph (entered : Entered tag false) : Treated tag .paragraph
  | heading (name : tag.name = "h4") : Treated tag (.replace [])
  | lineBreak (name : tag.name = "br") : Treated tag (.replace ['\n'])
  | picture (name : tag.name = "img") (own : isPicture tag = true) :
    Treated tag (.replace (Code.image.opening ++ (tag.value "src").toList ++ Code.image.closing))
  | smiley (name : tag.name = "img") (foreign : isPicture tag = false) :
    Treated tag (.replace (tag.value "alt").toList)

theorem treated (tag : Tag) {inside : Nodes} (unbracketed : Unbracketed inside)
    (address : ∀ c ∈ (tag.value "href").toList, Bare c) : Treated tag (treatment tag inside) := by
  have entered {name : String} (named : tag.name = name) (other : name ∉ ["h4", "img", "div"]) : Entered tag false := by
    simp only [List.mem_cons, List.not_mem_nil, or_false, not_or] at other
    exact ⟨named ▸ other.1, named ▸ other.2.1, by simp [isCodeBox, named, other.2.2]⟩
  have style {name : String} {code : Code} (named : tag.name = name) (other : name ∉ ["h4", "img", "div"])
      (apart : code ≠ .codeBox) : Treated tag (.wrap code.opening code false) :=
    code.written_opening ▸ .pair code none (entered named other) apart (by simp)
  unfold treatment
  split
  case h_1 named =>
    rw [← Code.written_openingWith]
    refine .pair .url _ (entered named (by decide)) (by decide) ?_
    rintro text ⟨⟩
    exact address
  case h_2 named => exact style named (by decide) (by decide)
  case h_3 named => exact style named (by decide) (by decide)
  case h_4 named => exact style named (by decide) (by decide)
  case h_5 named => exact style named (by decide) (by decide)
  case h_6 named =>
    split
    · exact style named (by decide) (by decide)
    · exact .content (entered named (by decide))
  case h_7 named =>
    obtain ⟨argument, bare, written⟩ := quoteOpening_written unbracketed
    rw [written]
    exact .pair .quote argument (entered named (by decide)) (by decide) bare
  case h_8 named =>
    have heading : tag.name ≠ "h4" := named ▸ by decide
    have image : tag.name ≠ "img" := named ▸ by decide
    split
    · next boxed => exact .box ⟨heading, image, by simp [isCodeBox, named, boxed]⟩
    · next unboxed => exact .content ⟨heading, image, by simpa [isCodeBox, named] using unboxed⟩
  case h_9 named => exact .heading named
  case h_10 named => exact .lineBreak named
  case h_11 named => exact .paragraph (entered named (by decide))
  case h_12 named =>
    split
    · next own => exact .picture named own
    · next foreign => exact .smiley named (by simpa using foreign)
  case h_13 blockquote div heading br p image =>
    exact .content ⟨heading, image, by simpa [isCodeBox] using fun named => absurd named div⟩

/-- An element without a code of its own becomes its content. -/
theorem treatment_uncoded {tag : Tag} (uncoded : Uncoded tag) (heading : tag.name ≠ "h4") (inside : Nodes) :
    treatment tag inside = .content := by
  unfold treatment
  split
  case h_6 named =>
    rw [if_neg]
    exact fun underlined => uncoded.underlined ⟨named, underlined⟩
  case h_8 named =>
    rw [if_neg]
    simpa [isCodeBox, named] using uncoded.boxed
  case h_9 named => exact absurd named heading
  case h_13 => rfl
  all_goals
    next named => exact absurd (by simp [named]) uncoded.name

/-- Pieces that are read back, with nested codes, what they say and the code boxes among them. -/
structure Renders (pieces : List Piece) (said : List Char) (boxes : List Nodes) : Prop where
  sound : ∀ piece ∈ pieces, piece.Sound
  nested : ∃ marks, (bodies pieces).mapM Mark.ofBody? = some marks ∧ Nested marks
  tells : Text.solid (texts pieces) = Text.solid said
  setOff : List.Forall₂ SetOff boxes (following Code.codeBox.name pieces)

section Renders

variable {pieces others : List Piece} {text more : List Char} {boxes further : List Nodes}

theorem renders_chars {shown : List Char} (bare : ∀ c ∈ text, Bare c) (same : Text.solid text = Text.solid shown) :
    Renders (text.map .char) shown [] where
  sound := by simpa [Piece.Sound] using bare
  nested := ⟨[], by simp, .nil⟩
  tells := by simpa using same
  setOff := by simp

theorem renders_nil : Renders [] [] [] where
  sound := fun _ member => absurd member List.not_mem_nil
  nested := ⟨[], rfl, .nil⟩
  tells := rfl
  setOff := .nil

theorem SetOff.append {box : Nodes} (setOff : SetOff box pieces) (others : List Piece) :
    SetOff box (pieces ++ others) :=
  fun simple => (setOff simple).trans (List.prefix_append pieces others)

theorem setOff_append (setOff : List.Forall₂ SetOff boxes (following Code.codeBox.name pieces)) (others : List Piece) :
    List.Forall₂ SetOff boxes ((following Code.codeBox.name pieces).map (· ++ others)) :=
  List.forall₂_map_right_iff.mpr (setOff.imp fun _ _ one => one.append others)

theorem Renders.append (renders : Renders pieces text boxes) (behind : Renders others more further) :
    Renders (pieces ++ others) (text ++ more) (boxes ++ further) where
  sound := List.forall_mem_append.mpr ⟨renders.sound, behind.sound⟩
  nested := by
    obtain ⟨marks, read, nested⟩ := renders.nested
    obtain ⟨later, found, alsoNested⟩ := behind.nested
    refine ⟨marks ++ later, ?_, nested.append alsoNested⟩
    rw [bodies_append, List.mapM_append, read, found]
    rfl
  tells := by rw [texts_append, Text.solid_append, Text.solid_append, renders.tells, behind.tells]
  setOff := by
    rw [following_append]
    exact List.rel_append (setOff_append renders.setOff others) behind.setOff

/-- A code around pieces. -/
def enclosed (code : Code) (argument : Option (List Char)) (pieces : List Piece) : List Piece :=
  .code (code.body argument) :: (pieces ++ [.code ('/' :: code.name)])

theorem write_enclosed (code : Code) (argument : Option (List Char)) (pieces : List Piece) :
    write (enclosed code argument pieces) =
      (Piece.code (code.body argument)).written ++ write pieces ++ code.closing := by
  simp [enclosed, Code.written_closing]

theorem body_eq_iff (code : Code) (argument : Option (List Char)) :
    code.body argument = Code.codeBox.name ↔ code = .codeBox ∧ argument = none := by
  constructor
  · intro same
    have read := (Mark.ofBody?_opening code argument).symm.trans
      (congrArg Mark.ofBody? (same.trans (List.append_nil _).symm))
    rw [show Code.codeBox.name ++ [] = Code.codeBox.body none from rfl, Mark.ofBody?_opening] at read
    simpa using read
  · rintro ⟨rfl, rfl⟩
    rfl

theorem following_enclosed (code : Code) (argument : Option (List Char)) (pieces : List Piece) :
    following Code.codeBox.name (enclosed code argument pieces) =
      (if code = .codeBox ∧ argument = none then [pieces ++ [.code ('/' :: code.name)]] else []) ++
        (following Code.codeBox.name pieces).map (· ++ [.code ('/' :: code.name)]) := by
  have closing : following Code.codeBox.name [.code ('/' :: code.name)] = [] := rfl
  rw [enclosed, following]
  simp only [body_eq_iff, following_append, closing, List.append_nil]
  split <;> rfl

theorem sound_enclosed {code : Code} {argument : Option (List Char)} (sound : ∀ piece ∈ pieces, piece.Sound)
    (bare : ∀ text ∈ argument, ∀ c ∈ text, Bare c) : ∀ piece ∈ enclosed code argument pieces, piece.Sound := by
  have name : ∀ c ∈ code.name, Bare c := fun c member => (code.letters_name c member).1
  rw [enclosed, List.forall_mem_cons, List.forall_mem_append, List.forall_mem_singleton]
  refine ⟨?_, sound, List.forall_mem_cons.mpr ⟨by decide, name⟩⟩
  rw [Piece.Sound, Code.body, List.forall_mem_append]
  refine ⟨name, ?_⟩
  cases argument with
  | none => exact fun c member => absurd member List.not_mem_nil
  | some text => exact List.forall_mem_cons.mpr ⟨by decide, bare text rfl⟩

theorem Renders.enclosed {code : Code} {argument : Option (List Char)} (renders : Renders pieces text boxes)
    (bare : ∀ text ∈ argument, ∀ c ∈ text, Bare c)
    (own : List.Forall₂ SetOff further
      (if code = .codeBox ∧ argument = none then [pieces ++ [.code ('/' :: code.name)]] else [])) :
    Renders (enclosed code argument pieces) text (further ++ boxes) where
  sound := sound_enclosed renders.sound bare
  nested := by
    obtain ⟨marks, read, nested⟩ := renders.nested
    refine ⟨_, ?_, .pair code argument nested .nil⟩
    rw [BBCode.enclosed, bodies_code, bodies_append, List.mapM_cons, Mark.ofBody?_opening, List.mapM_append, read]
    simp [bodies, Mark.ofBody?_closing]
  tells := by
    rw [BBCode.enclosed, texts_code, texts_append, texts_code]
    simpa [texts] using renders.tells
  setOff := by
    rw [following_enclosed]
    exact List.rel_append own (setOff_append renders.setOff _)

end Renders

theorem Unbracketed.said {nodes : Nodes} (unbracketed : Unbracketed nodes) : ∀ c ∈ said nodes, Bare c := by
  induction nodes with
  | nil => exact fun c member => absurd member List.not_mem_nil
  | text kind content next ih =>
    rw [BBCode.said, List.forall_mem_append]
    refine ⟨?_, ih unbracketed.2⟩
    split
    · exact fun c member => absurd member List.not_mem_nil
    · next shown => exact unbracketed.1 shown
  | element tag inside next ihInside ihNext =>
    obtain ⟨attributes, within, behind⟩ := unbracketed
    rw [BBCode.said, List.forall_mem_append]
    refine ⟨?_, ihNext behind⟩
    split
    · exact fun c member => absurd member List.not_mem_nil
    · rw [List.forall_mem_append]
      refine ⟨?_, ihInside within⟩
      unfold imageText
      split
      · split
        · exact attributes "src" (by decide)
        · exact attributes "alt" (by decide)
      · exact fun c member => absurd member List.not_mem_nil

/-- Where blanks are kept, simple content stays as it is. -/
theorem convert_simple {nodes : Nodes} (simple : Simple nodes) (previous : Option String) :
    convert true previous nodes = said nodes := by
  induction nodes generalizing previous with
  | nil => rfl
  | text kind content next ih =>
    by_cases comment : kind = .comment <;> simp [convert, said, plain, comment, ih simple]
  | element tag inside next ihInside ihNext =>
    obtain ⟨here, behind⟩ := simple
    by_cases heading : tag.name = "h4"
    · simp [convert, said, treatment, heading, ihNext behind]
    · obtain ⟨uncoded, within⟩ := here.resolve_left heading
      have image : imageText tag = [] := by
        rw [imageText, if_neg]
        exact fun named => uncoded.name (by simp [named])
      rw [convert, treatment_uncoded uncoded heading, said, if_neg heading, image]
      simp only [ihInside within, ihNext behind, List.nil_append]

/-- A text that a tree becomes. -/
def Conveys (nodes : Nodes) (text : List Char) : Prop :=
  ∃ pieces told boxes, write pieces = text ∧ Renders pieces told boxes ∧
    (Childless nodes → told = said nodes ∧ boxes = codeBoxes nodes)

section Conveys

variable {tag : Tag} {inside next : Nodes} {text : List Char} {boxed : Bool}

theorem Entered.said (entered : Entered tag boxed) (inside : Nodes) :
    said (.element tag inside .nil) = said inside := by
  simp [BBCode.said, imageText, entered.heading, entered.image]

theorem Entered.codeBoxes (entered : Entered tag boxed) (inside : Nodes) :
    codeBoxes (.element tag inside .nil) = (if boxed then [inside] else []) ++ codeBoxes inside := by
  simp [BBCode.codeBoxes, entered.heading, entered.box]

theorem Conveys.enter (conveys : Conveys inside text) (entered : Entered tag false) :
    Conveys (.element tag inside .nil) text := by
  obtain ⟨pieces, told, boxes, written, renders, whole⟩ := conveys
  refine ⟨pieces, told, boxes, written, renders, fun ⟨_, childless, _⟩ => ?_⟩
  rw [entered.said, entered.codeBoxes]
  exact whole childless

theorem Conveys.beside {more : List Char} (conveys : Conveys (.element tag inside .nil) text)
    (behind : Conveys next more) : Conveys (.element tag inside next) (text ++ more) := by
  obtain ⟨pieces, told, boxes, rfl, renders, whole⟩ := conveys
  obtain ⟨others, further, rest, rfl, after, complete⟩ := behind
  refine ⟨pieces ++ others, told ++ further, boxes ++ rest, write_append .., renders.append after, ?_⟩
  rintro ⟨single, within, later⟩
  obtain ⟨rfl, rfl⟩ := whole ⟨single, within, trivial⟩
  obtain ⟨rfl, rfl⟩ := complete later
  constructor
  · simp [said]
  · simp [codeBoxes]

/-- A text in place of an image or a line break. -/
theorem conveys_replaced {pieces : List Piece} {told : List Char} (renders : Renders pieces told [])
    (named : tag.name ∈ ["img", "br"]) (same : imageText tag = told) :
    Conveys (.element tag inside .nil) (write pieces) := by
  have heading : tag.name ≠ "h4" := by
    intro heading
    exact absurd (heading ▸ named) (by decide)
  have boxed : isCodeBox tag = false := by
    have other : tag.name ≠ "div" := by
      intro other
      exact absurd (other ▸ named) (by decide)
    simp [isCodeBox, other]
  refine ⟨pieces, told, [], rfl, renders, fun ⟨single, _, _⟩ => ?_⟩
  rw [single named]
  constructor
  · simp [said, heading, same]
  · simp [codeBoxes, heading, boxed]

theorem conveys_enclosed {code : Code} {argument : Option (List Char)} (conveys : Conveys inside text)
    (entered : Entered tag false) (other : code ≠ .codeBox) (bare : ∀ text ∈ argument, ∀ c ∈ text, Bare c) :
    Conveys (.element tag inside .nil) ((Piece.code (code.body argument)).written ++ text ++ code.closing) := by
  obtain ⟨pieces, told, boxes, rfl, renders, whole⟩ := conveys
  have around : Renders (enclosed code argument pieces) told ([] ++ boxes) := renders.enclosed bare (by simp [other])
  exact Conveys.enter ⟨_, told, boxes, write_enclosed .., around, whole⟩ entered

/-- A code box sets off its content, which is kept as it is if it is simple. -/
theorem conveys_boxed (unbracketed : Unbracketed inside) (conveys : Conveys inside (convert true none inside))
    (entered : Entered tag true) : Conveys (.element tag inside .nil)
      (Code.codeBox.opening ++ convert true none inside ++ Code.codeBox.closing) := by
  obtain ⟨pieces, told, boxes, written, renders, whole⟩ := conveys
  have own : SetOff inside (pieces ++ [.code ('/' :: Code.codeBox.name)]) := by
    intro simple
    rw [convert_simple simple] at written
    obtain rfl := eq_chars_of_write renders.sound unbracketed.said written
    exact List.prefix_rfl
  have around : Renders (enclosed .codeBox none pieces) told ([inside] ++ boxes) :=
    renders.enclosed (by simp) (by simpa using own)
  refine ⟨_, told, inside :: boxes, ?_, around, fun ⟨_, childless, _⟩ => ?_⟩
  · rw [write_enclosed, Code.written_opening, written]
  · rw [entered.said, entered.codeBoxes]
    exact (whole childless).imp_right (congrArg (inside :: ·))

theorem conveys_element (unbracketed : Unbracketed (.element tag inside .nil)) (keep : Bool) (previous : Option String)
    (within : ∀ keep, Conveys inside (convert keep none inside)) :
    Conveys (.element tag inside .nil) (convert keep previous (.element tag inside .nil)) := by
  obtain ⟨attributes, inner, -⟩ := unbracketed
  have source := attributes "src" (by decide)
  have alternative := attributes "alt" (by decide)
  have result := treated tag inner (attributes "href" (by decide))
  rw [convert, convert, List.append_nil]
  generalize treatment tag inside = treatment at result
  cases result with
  | pair code argument entered other bare =>
    simp only [Bool.or_false]
    exact conveys_enclosed (within keep) entered other bare
  | box entered =>
    simp only [Bool.or_true]
    exact conveys_boxed inner (within true) entered
  | content entered => exact (within keep).enter entered
  | paragraph entered =>
    obtain ⟨pieces, told, boxes, written, renders, whole⟩ := within keep
    refine Conveys.enter ?_ entered
    by_cases again : previous = some "p"
    · have apart : Renders (['\n', '\n'].map .char) [] [] := renders_chars (by decide) (by decide)
      exact ⟨_, told, boxes, by simp [again, written, Piece.written], apart.append renders, whole⟩
    · exact ⟨pieces, told, boxes, by simpa [again] using written, renders, whole⟩
  | heading named =>
    refine ⟨[], [], [], rfl, renders_nil, fun _ => ?_⟩
    simp [said, codeBoxes, named]
  | lineBreak named =>
    have image : imageText tag = [] := by simp [imageText, named]
    have chars : Renders (['\n'].map .char) [] [] := renders_chars (by decide) (by decide)
    exact conveys_replaced chars (by simp [named]) image
  | picture named own =>
    have image : imageText tag = (tag.value "src").toList := by simp [imageText, named, own]
    have chars : Renders ((tag.value "src").toList.map .char) _ [] := renders_chars source rfl
    have around : Renders (enclosed .image none _) _ ([] ++ []) := chars.enclosed (by simp) (by simp)
    have conveys : Conveys (.element tag inside .nil) _ := conveys_replaced around (by simp [named]) image
    rwa [write_enclosed, Code.written_opening, write_chars] at conveys
  | smiley named foreign =>
    have image : imageText tag = (tag.value "alt").toList := by simp [imageText, named, foreign]
    have conveys : Conveys (.element tag inside .nil) _ :=
      conveys_replaced (renders_chars alternative rfl) (by simp [named]) image
    rwa [write_chars] at conveys

end Conveys

theorem conveys_convert {nodes : Nodes} (unbracketed : Unbracketed nodes) (keep : Bool) (previous : Option String) :
    Conveys nodes (convert keep previous nodes) := by
  induction nodes generalizing keep previous with
  | nil => exact ⟨[], [], [], rfl, renders_nil, fun _ => ⟨rfl, rfl⟩⟩
  | text kind content next ih =>
    obtain ⟨pieces, told, boxes, written, renders, whole⟩ := ih unbracketed.2 keep previous
    by_cases comment : kind = .comment
    · exact ⟨pieces, told, boxes, by simpa [convert, comment] using written, renders,
        fun childless => by simpa [said, codeBoxes, comment] using whole childless⟩
    · have bare : ∀ c ∈ plain keep content, Bare c := by
        intro c member
        unfold plain at member
        split at member
        · exact unbracketed.1 comment c member
        · rcases Text.mem_squeeze member with rfl | inside
          · decide
          · exact unbracketed.1 comment c inside
      have same : Text.solid (plain keep content) = Text.solid content.toList := by
        unfold plain
        split
        · rfl
        · exact Text.solid_squeeze _
      refine ⟨_, content.toList ++ told, boxes, ?_, (renders_chars bare same).append renders, fun childless => ?_⟩
      · simp [convert, comment, written]
      · simpa [said, codeBoxes, comment] using whole childless
  | element tag inside next ihInside ihNext =>
    obtain ⟨attributes, inner, behind⟩ := unbracketed
    have apart : convert keep previous (.element tag inside next) =
        convert keep previous (.element tag inside .nil) ++ convert keep (some tag.name) next := by
      simp [convert]
    rw [apart]
    exact (conveys_element ⟨attributes, inner, trivial⟩ keep previous fun keep => ihInside inner keep none).beside
      (ihNext behind keep _)

section Blanks

variable {pieces : List Piece} {told text : List Char} {boxes : List Nodes} {c : Char}

theorem ne_bracket {c : Char} (blank : Text.isBlank c = true) : c ≠ '[' ∧ c ≠ ']' := by
  constructor <;> rintro rfl <;> exact absurd blank (by decide)

theorem Renders.behind_blank (renders : Renders pieces told boxes) (blank : Text.isBlank c = true)
    (written : write pieces = c :: text) : ∃ rest, write rest = text ∧ Renders rest told boxes := by
  cases pieces with
  | nil => cases written
  | cons piece rest =>
    cases piece with
    | code body => exact absurd (List.cons.inj written).1.symm (ne_bracket blank).1
    | char d =>
      obtain ⟨rfl, behind⟩ := List.cons.inj written
      refine ⟨rest, behind, fun piece member => renders.sound piece (List.mem_cons_of_mem _ member), renders.nested, ?_,
        renders.setOff⟩
      exact (Text.solid_blank blank _).symm.trans renders.tells

theorem SetOff.before_char {box : Nodes} (setOff : SetOff box (pieces ++ [.char c])) : SetOff box pieces := by
  intro simple
  rcases List.prefix_concat_iff.mp (setOff simple) with same | before
  · exact absurd (List.append_inj' same rfl).2 (by simp)
  · exact before

theorem Renders.before_blank (renders : Renders pieces told boxes) (blank : Text.isBlank c = true)
    (written : write pieces = text ++ [c]) : ∃ rest, write rest = text ∧ Renders rest told boxes := by
  rcases List.eq_nil_or_concat' pieces with rfl | ⟨rest, last, rfl⟩
  · exact absurd written (by simp)
  · cases last with
    | code body =>
      have ends : (write rest ++ '[' :: body) ++ [']'] = text ++ [c] := by
        rw [← written]
        simp [Piece.written]
      obtain ⟨-, last⟩ := List.append_inj' ends rfl
      exact absurd (List.cons.inj last).1.symm (ne_bracket blank).2
    | char d =>
      rw [write_append] at written
      obtain ⟨front, last⟩ := List.append_inj' written rfl
      obtain rfl := (List.cons.inj last).1
      refine ⟨rest, front, fun piece member => renders.sound piece (List.mem_append_left _ member), ?_, ?_, ?_⟩
      · simpa [bodies] using renders.nested
      · rw [← renders.tells, texts_append, Text.solid_append]
        simp [texts, Text.solid, blank]
      · have setOff := renders.setOff
        rw [following_append] at setOff
        have single : following Code.codeBox.name [.char d] = [] := rfl
        rw [single, List.append_nil, List.forall₂_map_right_iff] at setOff
        exact setOff.imp fun _ _ one => one.before_char

end Blanks

theorem conveys_ofElement (e : Element) (unbracketed : Unbracketed e.inside) :
    Conveys e.inside (ofElement e).toList := by
  obtain ⟨pieces, told, boxes, written, renders, whole⟩ := conveys_convert unbracketed false none
  have stripped : ∃ pieces, write pieces = Text.strip (convert false none e.inside) ∧ Renders pieces told boxes := by
    rw [Text.strip]
    refine Text.trim_induction (motive := fun text => ∃ pieces, write pieces = text ∧ Renders pieces told boxes) ?_ ?_
      ⟨pieces, written, renders⟩
    · rintro c rest blank ⟨pieces, written, renders⟩
      exact renders.behind_blank blank written
    · rintro c rest blank ⟨pieces, written, renders⟩
      exact renders.before_blank blank written
  obtain ⟨pieces, written, renders⟩ := stripped
  exact ⟨pieces, told, boxes, by rw [written, ofElement, ofNodes, String.toList_ofList], renders, whole⟩

/-- The codes of a message are closed in the order last opened, first closed, and all of them are. -/
theorem marks?_ofElement (e : Element) (unbracketed : Unbracketed e.inside) :
    ∃ marks, marks? (ofElement e).toList = some marks ∧ leftOpen? [] marks = some [] := by
  obtain ⟨pieces, told, boxes, written, renders, -⟩ := conveys_ofElement e unbracketed
  obtain ⟨marks, read, nested⟩ := renders.nested
  refine ⟨marks, ?_, ?_⟩
  · rw [marks?, ← written, cut?_written renders.sound]
    exact read
  · simpa [leftOpen?] using nested.leftOpen?_append [] []

/-- A quote with an author, and a link and a picture inside bold text. -/
theorem marks?_ofElement_quote :
    let words (content : String) (next : Nodes) : Nodes := .text .plain content next
    let plain (name : String) (inside next : Nodes) : Nodes := .element ⟨name, []⟩ inside next
    let picture : Nodes := .element ⟨"img", [("class", "postimg"), ("src", "a.png")]⟩ .nil .nil
    let message : Element := ⟨⟨"div", [("class", "postmsg")]⟩,
      plain "blockquote" (plain "div" (plain "h4" (words "Alice wrote:" .nil) (plain "p" (words "Yes" .nil) .nil)) .nil)
        (plain "b" (.element ⟨"a", [("href", "http://x/")]⟩ (words "see" .nil) picture) .nil), []⟩
    Unbracketed message.inside ∧ ofElement message = "[quote=Alice]Yes[/quote][b][url=http://x/]see[/url][img]a.png[/img][/b]" ∧
      ∃ marks, marks? (ofElement message).toList = some marks ∧ leftOpen? [] marks = some [] := by
  intro words plain picture message
  have unbracketed : Unbracketed message.inside := by decide +kernel
  exact ⟨unbracketed, by decide +kernel, marks?_ofElement message unbracketed⟩

/-- Without its codes and without blanks a message says what its texts and images say, and what stands in a
simple code box is kept as it is between its codes. -/
theorem cut?_ofElement (e : Element) (unbracketed : Unbracketed e.inside) (childless : Childless e.inside) :
    ∃ pieces, cut? none (ofElement e).toList = some pieces ∧
      Text.solid (texts pieces) = Text.solid (said e.inside) ∧
      List.Forall₂ SetOff (codeBoxes e.inside) (following Code.codeBox.name pieces) := by
  obtain ⟨pieces, told, boxes, written, renders, whole⟩ := conveys_ofElement e unbracketed
  obtain ⟨rfl, rfl⟩ := whole childless
  refine ⟨pieces, ?_, renders.tells, renders.setOff⟩
  rw [← written, cut?_written renders.sound]

/-- A code box with its heading, between a smiley and a text. -/
theorem cut?_ofElement_box :
    let words (content : String) (next : Nodes) : Nodes := .text .plain content next
    let plain (name : String) (inside next : Nodes) : Nodes := .element ⟨name, []⟩ inside next
    let smiley (next : Nodes) : Nodes := .element ⟨"img", [("src", "s.png"), ("alt", ":)")]⟩ .nil next
    let box (inside next : Nodes) : Nodes := .element ⟨"div", [("class", "codebox")]⟩ inside next
    let message : Element := ⟨⟨"div", [("class", "postmsg")]⟩,
      smiley (box (plain "h4" (words "Code:" .nil) (plain "pre" (words "a\n  b" .nil) .nil)) (words " end" .nil)), []⟩
    Unbracketed message.inside ∧ Childless message.inside ∧ ofElement message = ":)[code]a\n  b[/code] end" ∧
      ∃ pieces, cut? none (ofElement message).toList = some pieces ∧
        Text.solid (texts pieces) = Text.solid (said message.inside) ∧
        List.Forall₂ SetOff (codeBoxes message.inside) (following Code.codeBox.name pieces) := by
  intro words plain smiley box message
  have unbracketed : Unbracketed message.inside := by decide +kernel
  have childless : Childless message.inside := by decide +kernel
  exact ⟨unbracketed, childless, by decide +kernel, cut?_ofElement message unbracketed childless⟩

end BoardMigration.BBCode
