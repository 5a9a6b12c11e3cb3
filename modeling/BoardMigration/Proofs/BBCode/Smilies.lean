import BoardMigration.Proofs.BBCode.Conversion
import BoardMigration.Proofs.Html.Lacks

/-! Smilies and the message they stand in. A smiley is written as its caption, so messages that differ in the
captions of their images alone become one text just if there is no smiley to be written. The search for smilies
and the conversion walk a tree on their own; they agree on every image that no heading hides. -/
namespace BoardMigration

namespace Html

/-- An image with another caption, the text that stands for it, or with none. -/
def Tag.captioned (caption : Option String) (tag : Tag) : Tag :=
  if tag.name = "img" then
    { tag with attributes := (caption.map ("alt", ·)).toList ++ tag.attributes.filter (·.1 != "alt") }
  else tag

/-- The tree with one caption for all its images. -/
def Nodes.captioned (caption : Option String) : Nodes → Nodes
  | nil => nil
  | text kind content next => text kind content (next.captioned caption)
  | element tag inside next =>
    element (tag.captioned caption) (inside.captioned caption) (next.captioned caption)

/-- Trees that differ in the captions of their images at most. -/
def Nodes.Recaptioned (nodes other : Nodes) : Prop := other.captioned none = nodes.captioned none

def Element.captioned (caption : Option String) (e : Element) : Element :=
  ⟨e.tag.captioned caption, e.inside.captioned caption, e.above.map (Tag.captioned caption)⟩

namespace Tag

variable (caption : Option String) {tag : Tag}

@[simp] theorem name_captioned (tag : Tag) : (tag.captioned caption).name = tag.name := by
  unfold captioned
  split <;> rfl

theorem captioned_of_ne (other : tag.name ≠ "img") : tag.captioned caption = tag := if_neg other

@[simp] theorem value_captioned (tag : Tag) {name : String} (other : name ≠ "alt") :
    (tag.captioned caption).value name = tag.value name := by
  have apart : ("alt" == name) = false := beq_false_of_ne other.symm
  have kept : (tag.attributes.filter (·.1 != "alt")).find? (·.1 == name) = tag.attributes.find? (·.1 == name) := by
    rw [List.find?_filter]
    congr 1
    funext entry
    by_cases same : entry.1 = name
    · simp [same, other]
    · simp [same]
  unfold captioned
  split
  · cases caption with
    | none => simp only [value, value?, Option.map_none, Option.toList_none, List.nil_append, kept]
    | some text =>
      simp only [value, value?, Option.map_some, Option.toList_some, List.singleton_append, List.find?_cons, apart, kept]
  · rfl

theorem alt_captioned (image : tag.name = "img") : (tag.captioned caption).value "alt" = caption.getD "" := by
  rw [captioned, if_pos image]
  cases caption with
  | none =>
    have gone : (tag.attributes.filter (·.1 != "alt")).find? (·.1 == "alt") = none := by
      rw [List.find?_eq_none]
      intro entry member
      simpa using (List.mem_filter.mp member).2
    simp [value, value?, gone]
  | some text => simp [value, value?]

@[simp] theorem captioned_captioned (first : Option String) (tag : Tag) :
    (tag.captioned first).captioned caption = tag.captioned caption := by
  by_cases image : tag.name = "img"
  · have gone : ((first.map ("alt", ·)).toList).filter (fun entry : String × String => entry.1 != "alt") = [] := by
      cases first <;> simp
    simp [captioned, image, List.filter_append, gone, List.filter_filter]
  · simp [captioned_of_ne, image]

end Tag

namespace Nodes

variable (caption : Option String)

@[simp] theorem captioned_captioned (first : Option String) (nodes : Nodes) :
    (nodes.captioned first).captioned caption = nodes.captioned caption := by
  induction nodes with
  | nil => rfl
  | text kind content next ih => rw [captioned, captioned, ih, captioned]
  | element tag inside next ihInside ihNext =>
    rw [captioned, captioned, ihInside, ihNext, Tag.captioned_captioned, captioned]

theorem recaptioned_captioned (nodes : Nodes) : nodes.Recaptioned (nodes.captioned caption) :=
  captioned_captioned none caption nodes

@[simp] theorem gather_captioned (accept : TextKind → Bool) (nodes : Nodes) :
    (nodes.captioned caption).gather accept = nodes.gather accept := by
  induction nodes with
  | nil => rfl
  | text kind content next ih => simp only [captioned, gather, ih]
  | element tag inside next ihInside ihNext => simp only [captioned, gather, ihInside, ihNext]

theorem children_captioned (nodes : Nodes) (above : List Tag) :
    (nodes.captioned caption).children (above.map (Tag.captioned caption)) =
      (nodes.children above).map (Element.captioned caption) := by
  induction nodes with
  | nil => rfl
  | text kind content next ih => exact ih
  | element tag inside next _ ih =>
    rw [captioned, children, ih]
    rfl

theorem lacks_captioned {p : Tag → Bool} (blind : ∀ tag, p (tag.captioned caption) = p tag) (nodes : Nodes) :
    (nodes.captioned caption).Lacks p ↔ nodes.Lacks p := by
  induction nodes with
  | nil => exact Iff.rfl
  | text kind content next ih => exact ih
  | element tag inside next ihInside ihNext => rw [captioned, Lacks, Lacks, blind, ihInside, ihNext]

end Nodes

@[simp] theorem Element.rawText_captioned (caption : Option String) (e : Element) :
    (e.captioned caption).rawText = e.rawText := by
  have same : TextKind.shownIn (e.tag.captioned caption) = TextKind.shownIn e.tag := by
    funext kind
    rw [TextKind.shownIn, Tag.name_captioned, TextKind.shownIn]
  rw [rawText, captioned, same, Nodes.gather_captioned, rawText]

end Html

namespace BBCode

open Html

def isSmiley (tag : Tag) : Bool := tag.name == "img" && !isPicture tag

section Treatment

variable (caption : Option String) {tag : Tag} {inside : Nodes}

@[simp] theorem isPicture_captioned (tag : Tag) : isPicture (tag.captioned caption) = isPicture tag := by
  simp only [isPicture, Tag.hasClass, Tag.classes, Tag.value_captioned caption tag (show "class" ≠ "alt" by simp)]

@[simp] theorem isSmiley_captioned (tag : Tag) : isSmiley (tag.captioned caption) = isSmiley tag := by
  rw [isSmiley, Tag.name_captioned, isPicture_captioned, isSmiley]

theorem quoteHeading?_captioned (inside : Nodes) :
    quoteHeading? (inside.captioned caption) = (quoteHeading? inside).map (Element.captioned caption) := by
  have inner (nodes : Nodes) : (nodes.captioned caption).children [] =
      (nodes.children []).map (Element.captioned caption) := nodes.children_captioned caption []
  unfold quoteHeading?
  rw [inner, List.head?_map]
  cases (inside.children []).head? with
  | none => rfl
  | some box =>
    have within : ((box.captioned caption).inside.children []).head? =
        ((box.inside.children []).head?).map (Element.captioned caption) := by
      rw [Element.captioned, inner, List.head?_map]
    rw [Option.map_some, Option.bind_some, Option.bind_some, within]
    cases (box.inside.children []).head? with
    | none => rfl
    | some heading => by_cases named : heading.tag.name = "h4" <;> simp [Option.filter, Element.captioned, named]

/-- A quote names its author whatever the captions say. -/
theorem quoteOpening_captioned (inside : Nodes) : quoteOpening (inside.captioned caption) = quoteOpening inside := by
  have same : author ∘ Element.captioned caption = author := by
    funext heading
    rw [Function.comp_apply, author, Element.rawText_captioned, author]
  rw [quoteOpening, quoteHeading?_captioned, Option.map_map, same, quoteOpening]

theorem treatment_smiley (smiley : isSmiley tag = true) (inside : Nodes) :
    treatment tag inside = .replace (tag.value "alt").toList := by
  obtain ⟨image, foreign⟩ : tag.name = "img" ∧ isPicture tag = false := by simpa [isSmiley] using smiley
  simp [treatment, image, foreign]

/-- Captions show in smilies only. -/
theorem treatment_captioned (other : isSmiley tag = false) (inside : Nodes) :
    treatment (tag.captioned caption) (inside.captioned caption) = treatment tag inside := by
  by_cases image : tag.name = "img"
  · have own : isPicture tag = true := by simpa [isSmiley, image] using other
    simp [treatment, image, own]
  · rw [Tag.captioned_of_ne caption image, treatment, quoteOpening_captioned, treatment]

/-- Headings, line breaks and images are written without their content. -/
theorem name_of_replace {text : List Char} (replaced : treatment tag inside = .replace text) :
    tag.name = "h4" ∨ tag.name ∈ ["img", "br"] := by
  unfold treatment at replaced
  split at replaced
  case h_6 => split at replaced <;> cases replaced
  case h_8 => split at replaced <;> cases replaced
  case h_9 named => exact .inl named
  case h_10 named => exact .inr (by simp [named])
  case h_12 named => exact .inr (by simp [named])
  all_goals cases replaced

end Treatment

/-- How many smilies go into the text of a message. -/
def smilies : Nodes → Nat
  | .nil => 0
  | .text _ _ next => smilies next
  | .element tag inside next =>
    (if isSmiley tag then 1
      else match treatment tag inside with
        | .replace _ => 0
        | _ => smilies inside) + smilies next

/-- Each smiley adds its caption once, and nothing else depends on captions. -/
theorem length_convert_captioned (caption : Option String) (keep : Bool) (previous : Option String) (nodes : Nodes) :
    (Text.solid (convert keep previous (nodes.captioned caption))).length =
      (Text.solid (convert keep previous (nodes.captioned none))).length +
        smilies nodes * (Text.solid (caption.getD "").toList).length := by
  induction nodes generalizing keep previous with
  | nil => simp [Nodes.captioned, convert, smilies, Text.solid]
  | text kind content next ih =>
    simp only [Nodes.captioned, convert, Text.solid_append, List.length_append, ih keep previous, smilies]
    omega
  | element tag inside next ihInside ihNext =>
    have behind := ihNext keep (some tag.name)
    cases smiley : isSmiley tag with
    | true =>
      have image : tag.name = "img" := by simpa using (Bool.and_eq_true_iff.mp smiley).1
      have written (caption : Option String) : treatment (tag.captioned caption) (inside.captioned caption) =
          .replace (caption.getD "").toList := by
        rw [treatment_smiley (by rw [isSmiley_captioned, smiley]), Tag.alt_captioned caption image]
      have silent : (Text.solid ((none : Option String).getD "").toList).length = 0 := rfl
      simp only [Nodes.captioned, convert, written, Tag.name_captioned, Text.solid_append, List.length_append, behind,
        smilies, smiley, ↓reduceIte, silent, Nat.add_mul, Nat.one_mul]
      omega
    | false =>
      simp only [Nodes.captioned, convert, treatment_captioned _ smiley, Tag.name_captioned, smilies, smiley,
        Bool.false_eq_true, ↓reduceIte]
      cases treatment tag inside with
      | wrap opening closing keepInside =>
        simp only [Text.solid_append, List.length_append, behind, ihInside, Nat.add_mul]
        omega
      | content =>
        simp only [Text.solid_append, List.length_append, behind, ihInside, Nat.add_mul]
        omega
      | paragraph =>
        simp only [Text.solid_append, List.length_append, behind, ihInside, Nat.add_mul]
        omega
      | replace text =>
        simp only [Text.solid_append, List.length_append, behind, Nat.add_mul]
        omega

theorem convert_captioned (caption : Option String) (keep : Bool) (previous : Option String) {nodes : Nodes}
    (lacks : nodes.Lacks isSmiley) :
    convert keep previous (nodes.captioned caption) = convert keep previous nodes := by
  induction nodes generalizing keep previous with
  | nil => rfl
  | text kind content next ih => rw [Nodes.captioned, convert, ih keep previous lacks, convert]
  | element tag inside next ihInside ihNext =>
    obtain ⟨here, within, behind⟩ := lacks
    simp only [Nodes.captioned, convert, treatment_captioned _ here, Tag.name_captioned, ihInside _ _ within,
      ihNext _ _ behind]

/-- No images are inside headings. -/
def Unpictured : Nodes → Prop
  | .nil => True
  | .text _ _ next => Unpictured next
  | .element tag inside next =>
    (tag.name = "h4" → inside.Lacks (·.hasName "img")) ∧ Unpictured inside ∧ Unpictured next

instance : (nodes : Nodes) → Decidable (Unpictured nodes)
  | .nil => isTrue trivial
  | .text _ _ next => instDecidableUnpictured next
  | .element _ inside next =>
    have := instDecidableUnpictured inside
    have := instDecidableUnpictured next
    inferInstanceAs (Decidable (_ ∧ _))

/-- Every smiley that is found is written. -/
theorem lacks_smilies {nodes : Nodes} (childless : Childless nodes) (unpictured : Unpictured nodes)
    (none : smilies nodes = 0) : nodes.Lacks isSmiley := by
  induction nodes with
  | nil => trivial
  | text kind content next ih => exact ih childless unpictured none
  | element tag inside next ihInside ihNext =>
    obtain ⟨empty, inner, further⟩ := childless
    obtain ⟨heading, within, behind⟩ := unpictured
    obtain ⟨here, later⟩ := Nat.add_eq_zero_iff.mp none
    have plain : isSmiley tag = false := by
      by_contra smiley
      rw [if_pos (Bool.not_eq_false _ ▸ smiley)] at here
      cases here
    rw [if_neg (by simp [plain])] at here
    refine ⟨plain, ?_, ihNext further behind later⟩
    cases treated : treatment tag inside with
    | replace text =>
      rcases name_of_replace treated with named | single
      · exact (heading named).mono fun tag smiley => (Bool.and_eq_true_iff.mp smiley).1
      · rw [empty single]
        trivial
    | _ =>
      rw [treated] at here
      exact ihInside inner within here

theorem solid_strip (text : List Char) : Text.solid (Text.strip text) = Text.solid text := by
  refine Text.trim_induction (motive := fun rest => Text.solid rest = Text.solid text) ?_ ?_ rfl
  · intro c rest blank same
    rw [← same, Text.solid_blank blank]
  · intro c rest blank same
    rw [← same, Text.solid_append, Text.solid_blank blank]
    exact (List.append_nil _).symm

/-- A message has no smilies just if it becomes the same text whatever the captions of its images are: the smilies
that are found are those whose captions are written. -/
theorem hasSmilies_eq_false_iff (e : Element) (childless : Childless e.inside) (unpictured : Unpictured e.inside) :
    hasSmilies e = false ↔
      ∀ other, e.inside.Recaptioned other → ofElement { e with inside := other } = ofElement e := by
  have found : hasSmilies e = false ↔ e.inside.Lacks isSmiley := by
    rw [hasSmilies, List.any_eq_false, Element.descendants, Nodes.lacks_iff e.inside (e.tag :: e.above)]
    simp only [isSmiley, Bool.not_eq_true]
  rw [found]
  constructor
  · intro lacks other same
    have others : other.Lacks isSmiley := by
      rw [← Nodes.lacks_captioned none (isSmiley_captioned none), same]
      exact (Nodes.lacks_captioned none (isSmiley_captioned none) _).mpr lacks
    have here := convert_captioned none false none lacks
    have there := convert_captioned none false none others
    rw [ofElement, ofNodes, ofElement, ofNodes, ← here, ← there, same]
  · intro same
    apply lacks_smilies childless unpictured
    have shown := same _ (e.inside.recaptioned_captioned (some "x"))
    have hidden := same _ (e.inside.recaptioned_captioned none)
    have lengths := congrArg (fun text : String => (Text.solid text.toList).length) (shown.trans hidden.symm)
    simp only [ofElement, ofNodes, String.toList_ofList, solid_strip,
      length_convert_captioned (some "x") false none e.inside] at lengths
    have single : (Text.solid ((some "x").getD "").toList).length = 1 := rfl
    rw [single, Nat.mul_one] at lengths
    omega

/-- A smiley in a quote, behind a heading and a picture. -/
theorem hasSmilies_eq_false_iff_quoted :
    let words (content : String) (next : Nodes) : Nodes := .text .plain content next
    let plain (name : String) (inside next : Nodes) : Nodes := .element ⟨name, []⟩ inside next
    let image (attributes : Attributes) (next : Nodes) : Nodes := .element ⟨"img", attributes⟩ .nil next
    let message : Element := ⟨⟨"div", [("class", "postmsg")]⟩,
      image [("class", "postimg"), ("src", "a.png"), ("alt", "a")]
        (plain "blockquote" (plain "div" (plain "h4" (words "Alice wrote:" .nil)
          (plain "p" (image [("src", "s.png"), ("alt", ":)")] .nil) .nil)) .nil) .nil), []⟩
    Childless message.inside ∧ Unpictured message.inside ∧
      ofElement message = "[img]a.png[/img][quote=Alice]:)[/quote]" ∧ hasSmilies message = true ∧
      (hasSmilies message = false ↔
        ∀ other, message.inside.Recaptioned other → ofElement { message with inside := other } = ofElement message) := by
  intro words plain image message
  have childless : Childless message.inside := by decide +kernel
  have unpictured : Unpictured message.inside := by decide +kernel
  exact ⟨childless, unpictured, by decide +kernel, by decide +kernel, hasSmilies_eq_false_iff message childless unpictured⟩

end BBCode
end BoardMigration
