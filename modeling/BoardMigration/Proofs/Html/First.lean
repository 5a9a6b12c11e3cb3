import BoardMigration.Proofs.Page.Finds

/-! The first element of a kind, by its tag and what is inside it. Where else it stands does not matter for what
is found, so it can be found by a walk over the tree alone. -/
namespace BoardMigration.Html.Nodes

/-- Tag and content of the first element that satisfies `p`. -/
@[simp] def first? (p : Tag → Bool) : Nodes → Option (Tag × Nodes)
  | nil => none
  | text _ _ next => next.first? p
  | element tag inside next => if p tag then some (tag, inside) else (inside.first? p).or (next.first? p)

/-- Tag and content of the first element that satisfies `inner` inside one that satisfies `outer`. -/
@[simp] def firstUnder? (outer inner : Tag → Bool) : Nodes → Option (Tag × Nodes)
  | nil => none
  | text _ _ next => next.firstUnder? outer inner
  | element tag inside next =>
    (if outer tag then inside.first? inner else inside.firstUnder? outer inner).or (next.firstUnder? outer inner)

variable {p outer inner : Tag → Bool} {nodes : Nodes}

def content (e : Element) : Tag × Nodes := (e.tag, e.inside)

/-- A search for what only hangs on the tag. -/
theorem find?_elements {found : Element → Bool} (p : Tag → Bool) (nodes : Nodes) (above : List Tag)
    (tagged : ∀ e ∈ nodes.elements above, found e = p e.tag) :
    ((nodes.elements above).find? found).map content = nodes.first? p := by
  induction nodes generalizing above with
  | nil => rfl
  | text kind content next ih => exact ih above tagged
  | element tag inside next ihInside ihNext =>
    rw [elements, List.forall_mem_cons, List.forall_mem_append] at tagged
    obtain ⟨first, within, behind⟩ := tagged
    rw [elements, first?, List.find?_cons, first]
    cases p tag with
    | true => rfl
    | false => simp [List.find?_append, Option.map_or, ihInside _ within, ihNext _ behind]

/-- All elements stand in what the whole stands in. -/
theorem any_above {above : List Tag} (stands : above.any outer = true) :
    ∀ e ∈ nodes.elements above, e.above.any outer = true := by
  induction nodes generalizing above with
  | nil => exact fun e member => absurd member List.not_mem_nil
  | text kind content next ih => exact ih stands
  | element tag inside next ihInside ihNext =>
    rw [elements, List.forall_mem_cons, List.forall_mem_append]
    exact ⟨stands, ihInside (by simp [stands]), ihNext stands⟩

theorem find?_elements_under {above : List Tag} (clear : above.any outer = false) :
    ((nodes.elements above).find? fun e => inner e.tag && e.above.any outer).map content =
      nodes.firstUnder? outer inner := by
  induction nodes generalizing above with
  | nil => rfl
  | text kind content next ih => exact ih clear
  | element tag inside next ihInside ihNext =>
    have within : ((inside.elements (tag :: above)).find? fun e => inner e.tag && e.above.any outer).map content =
        if outer tag then inside.first? inner else inside.firstUnder? outer inner := by
      cases here : outer tag with
      | true =>
        have stands : (tag :: above).any outer = true := by simp [here]
        exact find?_elements inner inside (tag :: above) fun e member => by simp [any_above stands e member]
      | false => exact ihInside (by simp [here, clear])
    simp [elements, firstUnder?, clear, List.find?_append, Option.map_or, within, ihNext clear]

theorem lacks_iff_first? : nodes.Lacks p ↔ nodes.first? p = none := by
  induction nodes with
  | nil => exact iff_of_true trivial rfl
  | text kind content next ih => exact ih
  | element tag inside next ihInside ihNext =>
    cases here : p tag <;> simp [Lacks, first?, here, ihInside, ihNext]

theorem Lacks.firstUnder? (lacks : nodes.Lacks outer) : nodes.firstUnder? outer inner = none := by
  induction nodes with
  | nil => rfl
  | text kind content next ih => exact ih lacks
  | element tag inside next ihInside ihNext =>
    obtain ⟨here, within, behind⟩ := lacks
    simp [Nodes.firstUnder?, here, ihInside within, ihNext behind]

theorem modifyFirst_of_none (absent : nodes.first? p = none) (f : Nodes → Nodes) : nodes.modifyFirst p f = none := by
  induction nodes with
  | nil => rfl
  | text kind content next ih => rw [modifyFirst, ih absent, Option.map_none]
  | element tag inside next ihInside ihNext =>
    rw [first?] at absent
    split at absent
    · cases absent
    · next other =>
      obtain ⟨within, behind⟩ := Option.or_eq_none_iff.mp absent
      simp only [modifyFirst, other, ihInside within, ihNext behind, Bool.false_eq_true, ↓reduceIte, Option.map_none]

/-- The first element of a kind is still the first when what is inside it is changed. -/
theorem first?_modifyFirst {tag : Tag} {inside : Nodes} (found : nodes.first? p = some (tag, inside))
    (f : Nodes → Nodes) : ∃ changed, nodes.modifyFirst p f = some changed ∧ changed.first? p = some (tag, f inside) := by
  induction nodes with
  | nil => cases found
  | text kind content next ih =>
    obtain ⟨changed, done, still⟩ := ih found
    exact ⟨.text kind content changed, by rw [modifyFirst, done, Option.map_some], still⟩
  | element other within next ihInside ihNext =>
    rw [first?] at found
    split at found
    · next here =>
      cases found
      exact ⟨.element tag (f inside) next, by simp only [modifyFirst, here, ↓reduceIte],
        by simp only [first?, here, ↓reduceIte]⟩
    · next apart =>
      rcases Option.or_eq_some_iff.mp found with first | ⟨absent, behind⟩
      · obtain ⟨changed, done, still⟩ := ihInside first
        refine ⟨.element other changed next, by simp only [modifyFirst, apart, done, Bool.false_eq_true, ↓reduceIte], ?_⟩
        simp only [first?, apart, still, Bool.false_eq_true, ↓reduceIte, Option.some_or]
      · obtain ⟨changed, done, still⟩ := ihNext behind
        have same := modifyFirst_of_none absent f
        refine ⟨.element other within changed, ?_, ?_⟩
        · simp only [modifyFirst, apart, same, done, Bool.false_eq_true, ↓reduceIte, Option.map_some]
        · simp only [first?, apart, absent, still, Bool.false_eq_true, ↓reduceIte, Option.none_or]

end BoardMigration.Html.Nodes

namespace BoardMigration.Html.Element

open Nodes (content)

variable {p outer inner : Tag → Bool} {e : Element} {tag : Tag} {inside : Nodes}

theorem map_find? (p : Tag → Bool) (e : Element) : (e.find? p).map content = e.inside.first? p :=
  Nodes.find?_elements p e.inside (e.tag :: e.above) fun _ _ => rfl

theorem find?_of_first? (first : e.inside.first? p = some (tag, inside)) :
    ∃ above, e.find? p = some ⟨tag, inside, above⟩ := by
  rw [← map_find?] at first
  obtain ⟨⟨tag, inside, above⟩, found, same⟩ := Option.map_eq_some_iff.mp first
  cases same
  exact ⟨above, found⟩

theorem find?_of_none (first : e.inside.first? p = none) : e.find? p = none := by
  rw [← map_find?] at first
  exact Option.map_eq_none_iff.mp first

theorem isSome_find? : (e.find? p).isSome = (e.inside.first? p).isSome := by
  rw [← map_find?, Option.isSome_map]

theorem findUnder?_of_first? (clear : (e.tag :: e.above).any outer = false)
    (first : e.inside.firstUnder? outer inner = some (tag, inside)) :
    ∃ above, e.findUnder? outer inner = some ⟨tag, inside, above⟩ := by
  rw [← Nodes.find?_elements_under clear] at first
  obtain ⟨⟨tag, inside, above⟩, found, same⟩ := Option.map_eq_some_iff.mp first
  cases same
  exact ⟨above, found⟩

theorem findUnder?_of_none (clear : (e.tag :: e.above).any outer = false)
    (first : e.inside.firstUnder? outer inner = none) : e.findUnder? outer inner = none := by
  rw [← Nodes.find?_elements_under clear] at first
  exact Option.map_eq_none_iff.mp first

end BoardMigration.Html.Element
