import BoardMigration.BBCode
import BoardMigration.Proofs.Related
import BoardMigration.Proofs.Text.Words

/-! Trees without their comments. Taking the comments out of a tree leaves its elements, the texts that
elements show and what messages become; only the text directly inside an element counts comments in. -/
namespace BoardMigration.Html

namespace Nodes

/-- A tree and what is left of it once some of its comments are gone. -/
inductive Cleared : Nodes → Nodes → Prop where
  | nil : Cleared nil nil
  | text (kind : TextKind) (content : String) {next less : Nodes} (behind : Cleared next less) :
    Cleared (text kind content next) (text kind content less)
  | comment (content : String) {next less : Nodes} (behind : Cleared next less) :
    Cleared (.text .comment content next) less
  | element (tag : Tag) {inside next clear less : Nodes} (within : Cleared inside clear)
    (behind : Cleared next less) : Cleared (element tag inside next) (element tag clear less)

/-- The tree without any comment. -/
def uncommented : Nodes → Nodes
  | nil => nil
  | text kind content next =>
    if kind = .comment then next.uncommented else text kind content next.uncommented
  | element tag inside next => element tag inside.uncommented next.uncommented

/-- The comments that are no element's. -/
def ownComments : Nodes → List (List Char)
  | nil => []
  | text kind content next =>
    if kind = .comment then content.toList :: next.ownComments else next.ownComments
  | element _ _ next => next.ownComments

variable {nodes less : Nodes}

theorem cleared_uncommented (nodes : Nodes) : nodes.Cleared nodes.uncommented := by
  induction nodes with
  | nil => exact .nil
  | text kind content next ih =>
    unfold uncommented
    split
    · next comment =>
      subst comment
      exact .comment content ih
    · exact .text kind content ih
  | element tag inside next ihInside ihNext => exact .element tag ihInside ihNext

theorem Cleared.uncommented (cleared : nodes.Cleared less) : less.uncommented = nodes.uncommented := by
  induction cleared with
  | nil => rfl
  | text kind content _ ih => simp only [Nodes.uncommented, ih]
  | comment content _ ih => simpa [Nodes.uncommented] using ih
  | element tag _ _ ihWithin ihBehind => simp only [Nodes.uncommented, ihWithin, ihBehind]

theorem Cleared.ownComments (cleared : nodes.Cleared less) : less.ownComments ⊆ nodes.ownComments := by
  induction cleared with
  | nil => exact List.Subset.refl _
  | text kind content _ ih =>
    unfold Nodes.ownComments
    split
    · exact List.cons_subset_cons _ ih
    · exact ih
  | comment content _ ih => exact List.subset_cons_of_subset _ ih
  | element tag _ _ _ ih => exact ih

theorem gather_uncommented {accept : TextKind → Bool} (refuses : accept .comment = false) (nodes : Nodes) :
    nodes.uncommented.gather accept = nodes.gather accept := by
  induction nodes with
  | nil => rfl
  | text kind content next ih =>
    by_cases comment : kind = .comment
    · simp [uncommented, gather, comment, refuses, ih]
    · simp [uncommented, gather, comment, ih]
  | element tag inside next ihInside ihNext => simp [uncommented, gather, ihInside, ihNext]

/-- Words of the comments of a tree are what its own texts lose with them. -/
theorem length_words_ownTexts (nodes : Nodes) :
    (nodes.ownTexts.flatMap Text.words).length = (nodes.uncommented.ownTexts.flatMap Text.words).length +
      (nodes.ownComments.flatMap Text.words).length := by
  induction nodes with
  | nil => rfl
  | text kind content next ih =>
    by_cases comment : kind = .comment <;>
      simp only [ownTexts, uncommented, ownComments, comment, ↓reduceIte, List.flatMap_cons,
        List.length_append, ih] <;> omega
  | element tag inside next _ ih => exact ih

/-- Comments without words leave the words of a tree's own texts. -/
theorem words_ownTexts (blank : ∀ comment ∈ nodes.ownComments, Text.isBlankText comment = true) :
    nodes.uncommented.ownTexts.flatMap Text.words = nodes.ownTexts.flatMap Text.words := by
  induction nodes with
  | nil => rfl
  | text kind content next ih =>
    by_cases comment : kind = .comment
    · simp only [ownComments, comment, ↓reduceIte, List.forall_mem_cons] at blank
      have none := (Text.words_eq_nil_iff content.toList).mpr blank.1
      simp [uncommented, ownTexts, comment, none, ih blank.2]
    · simp only [ownComments, comment, ↓reduceIte] at blank
      simp [uncommented, ownTexts, comment, ih blank]
  | element tag inside next _ ih => exact ih blank

end Nodes

namespace Element

def uncommented (e : Element) : Element := { e with inside := e.inside.uncommented }

/-- An element and one that lacks some of the comments in it. -/
inductive Cleared : Element → Element → Prop where
  | mk (tag : Tag) (above : List Tag) {inside less : Nodes} (within : inside.Cleared less) :
    Cleared ⟨tag, inside, above⟩ ⟨tag, less, above⟩

end Element

namespace Nodes

@[simp] theorem elements_uncommented (nodes : Nodes) (above : List Tag) :
    nodes.uncommented.elements above = (nodes.elements above).map Element.uncommented := by
  induction nodes generalizing above with
  | nil => rfl
  | text kind content next ih =>
    by_cases comment : kind = .comment <;> simp [uncommented, elements, comment, ih]
  | element tag inside next ihInside ihNext =>
    simp [uncommented, elements, ihInside, ihNext, Element.uncommented]

@[simp] theorem children_uncommented (nodes : Nodes) (above : List Tag) :
    nodes.uncommented.children above = (nodes.children above).map Element.uncommented := by
  induction nodes with
  | nil => rfl
  | text kind content next ih =>
    by_cases comment : kind = .comment <;> simp [uncommented, children, comment, ih]
  | element tag inside next _ ih => simp [uncommented, children, ih, Element.uncommented]

theorem Cleared.elements {nodes less : Nodes} (cleared : nodes.Cleared less) (above : List Tag) :
    List.Forall₂ Element.Cleared (nodes.elements above) (less.elements above) := by
  induction cleared generalizing above with
  | nil => exact .nil
  | text kind content _ ih => exact ih above
  | comment content _ ih => exact ih above
  | element tag within _ ihWithin ihBehind =>
    exact .cons (.mk tag above within) (List.rel_append (ihWithin (tag :: above)) (ihBehind above))

end Nodes

namespace Element

@[simp] theorem tag_uncommented (e : Element) : e.uncommented.tag = e.tag := rfl

@[simp] theorem inside_uncommented (e : Element) : e.uncommented.inside = e.inside.uncommented := rfl

@[simp] theorem descendants_uncommented (e : Element) :
    e.uncommented.descendants = e.descendants.map uncommented :=
  Nodes.elements_uncommented e.inside (e.tag :: e.above)

@[simp] theorem select_uncommented (p : Tag → Bool) (e : Element) :
    e.uncommented.select p = (e.select p).map uncommented := by
  rw [select, descendants_uncommented, List.filter_map]
  rfl

@[simp] theorem find?_uncommented (p : Tag → Bool) (e : Element) :
    e.uncommented.find? p = (e.find? p).map uncommented := by
  rw [find?, descendants_uncommented, List.find?_map]
  rfl

@[simp] theorem selectUnder_uncommented (outer inner : Tag → Bool) (e : Element) :
    e.uncommented.selectUnder outer inner = (e.selectUnder outer inner).map uncommented := by
  rw [selectUnder, descendants_uncommented, List.filter_map]
  rfl

@[simp] theorem findUnder?_uncommented (outer inner : Tag → Bool) (e : Element) :
    e.uncommented.findUnder? outer inner = (e.findUnder? outer inner).map uncommented := by
  rw [findUnder?, descendants_uncommented, List.find?_map]
  rfl

/-- No element shows comments as its text. -/
theorem shownIn_comment (tag : Tag) : TextKind.shownIn tag .comment = false := by
  unfold TextKind.shownIn
  split
  · next special found =>
    unfold specialKind? at found
    split at found <;> cases found <;> rfl
  · rfl

@[simp] theorem rawText_uncommented (e : Element) : e.uncommented.rawText = e.rawText :=
  Nodes.gather_uncommented (shownIn_comment e.tag) e.inside

@[simp] theorem text_uncommented (e : Element) : e.uncommented.text = e.text := by
  rw [text, rawText_uncommented, text]

theorem Cleared.uncommented {e f : Element} (cleared : e.Cleared f) : f.uncommented = e.uncommented := by
  cases cleared with
  | mk tag above within => simp only [Element.uncommented, within.uncommented]

theorem cleared_uncommented (e : Element) : e.Cleared e.uncommented :=
  .mk e.tag e.above (Nodes.cleared_uncommented e.inside)

section

variable {e f : Element} (cleared : e.Cleared f) (p : Tag → Bool)
include cleared

theorem Cleared.ownComments : f.inside.ownComments ⊆ e.inside.ownComments := by
  cases cleared with
  | mk tag above within => exact within.ownComments

theorem Cleared.select : List.Forall₂ Cleared (e.select p) (f.select p) := by
  cases cleared with
  | mk tag above within =>
    apply List.rel_filter _ (within.elements (tag :: above))
    intro a b related
    cases related
    rfl

theorem Cleared.find? {b : Element} (found : f.find? p = some b) :
    ∃ a, e.find? p = some a ∧ a.Cleared b := by
  have related := cleared.select p
  rw [Element.find?, ← List.head?_filter] at found ⊢
  obtain ⟨others, chosen⟩ := List.head?_eq_some_iff.mp found
  rw [Element.select, Element.select, chosen] at related
  obtain ⟨a, more, here, -, whole⟩ := List.forall₂_cons_right_iff.mp related
  exact ⟨a, by rw [whole]; rfl, here⟩

theorem Cleared.isSome_find? : (f.find? p).isSome = (e.find? p).isSome := by
  have bare := congrArg (fun e : Element => (e.find? p).isSome) cleared.uncommented
  simpa only [find?_uncommented, Option.isSome_map] using bare

end

/-- The text directly inside an element is known by its words. -/
theorem ownText?_eq_iff (e f : Element) : e.ownText? = f.ownText? ↔
    e.inside.ownTexts.flatMap Text.words = f.inside.ownTexts.flatMap Text.words := by
  rw [← Text.words_intercalate, ← Text.words_intercalate, ← Text.collapse_eq_iff]
  unfold ownText?
  split <;> split <;> simp_all [String.ofList_inj]

/-- The text directly inside an element outlives its comments just if these are blank. -/
theorem ownText?_uncommented_iff (e : Element) : e.uncommented.ownText? = e.ownText? ↔
    ∀ comment ∈ e.inside.ownComments, Text.isBlankText comment = true := by
  rw [ownText?_eq_iff]
  constructor
  · intro same comment member
    have lengths := e.inside.length_words_ownTexts
    rw [← inside_uncommented, same] at lengths
    have none : e.inside.ownComments.flatMap Text.words = [] := List.eq_nil_of_length_eq_zero (by omega)
    exact (Text.words_eq_nil_iff comment).mp (List.flatMap_eq_nil_iff.mp none comment member)
  · exact Nodes.words_ownTexts

end Element
end BoardMigration.Html

namespace BoardMigration.BBCode

open Html

@[simp] theorem author_uncommented (heading : Element) : author heading.uncommented = author heading := by
  rw [author, Element.rawText_uncommented, author]

@[simp] theorem quoteHeading?_uncommented (inside : Nodes) :
    quoteHeading? inside.uncommented = (quoteHeading? inside).map Element.uncommented := by
  unfold quoteHeading?
  rw [Nodes.children_uncommented, List.head?_map]
  cases (inside.children []).head? with
  | none => rfl
  | some box =>
    simp only [Option.map_some, Option.bind_some, Element.inside_uncommented, Nodes.children_uncommented,
      List.head?_map]
    cases (box.inside.children []).head? with
    | none => rfl
    | some heading => by_cases named : heading.tag.name = "h4" <;> simp [Option.filter, named]

@[simp] theorem treatment_uncommented (tag : Tag) (inside : Nodes) :
    treatment tag inside.uncommented = treatment tag inside := by
  have named : quoteOpening inside.uncommented = quoteOpening inside := by
    have same : author ∘ Element.uncommented = author := funext author_uncommented
    unfold quoteOpening
    rw [quoteHeading?_uncommented, Option.map_map, same]
  unfold treatment
  rw [named]

@[simp] theorem convert_uncommented (keepBlanks : Bool) (previous : Option String) (nodes : Nodes) :
    convert keepBlanks previous nodes.uncommented = convert keepBlanks previous nodes := by
  induction nodes generalizing keepBlanks previous with
  | nil => rfl
  | text kind content next ih =>
    by_cases comment : kind = .comment
    · simp [Nodes.uncommented, convert, comment, ih]
    · simp [Nodes.uncommented, convert, comment, ih]
  | element tag inside next ihInside ihNext =>
    simp only [Nodes.uncommented, convert, treatment_uncommented, ihInside, ihNext]

@[simp] theorem ofElement_uncommented (e : Element) : ofElement e.uncommented = ofElement e := by
  simp only [ofElement, ofNodes, Element.inside_uncommented, convert_uncommented]

@[simp] theorem hasSmilies_uncommented (e : Element) : hasSmilies e.uncommented = hasSmilies e := by
  simp only [hasSmilies, Element.descendants_uncommented, List.any_map]
  rfl

end BoardMigration.BBCode
