import BoardMigration.Html.Nodes

/-! Elements that a tree does not have. -/
namespace BoardMigration.Html.Nodes

/-- Whether no element of a tree satisfies `p`. -/
def Lacks (p : Tag → Bool) : Nodes → Prop
  | nil => True
  | text _ _ next => next.Lacks p
  | element tag inside next => p tag = false ∧ inside.Lacks p ∧ next.Lacks p

instance (p : Tag → Bool) : (nodes : Nodes) → Decidable (nodes.Lacks p)
  | nil => isTrue trivial
  | text _ _ next => instDecidableLacks p next
  | element _ inside next =>
    have := instDecidableLacks p inside
    have := instDecidableLacks p next
    inferInstanceAs (Decidable (_ ∧ _ ∧ _))

variable {p q : Tag → Bool} {nodes : Nodes}

theorem lacks_iff (nodes : Nodes) (above : List Tag) :
    nodes.Lacks p ↔ ∀ e ∈ nodes.elements above, p e.tag = false := by
  induction nodes generalizing above with
  | nil => simp [Lacks, elements]
  | text kind content next ih => exact ih above
  | element tag inside next ihInside ihNext =>
    rw [Lacks, ihInside (tag :: above), ihNext above]
    simp only [elements, List.mem_cons, List.mem_append]
    constructor
    · rintro ⟨here, within, behind⟩ e (rfl | member | member)
      · exact here
      · exact within e member
      · exact behind e member
    · intro all
      exact ⟨all _ (.inl rfl), fun e member => all e (.inr (.inl member)),
        fun e member => all e (.inr (.inr member))⟩

theorem Lacks.mono (lacks : nodes.Lacks p) (within : ∀ tag, q tag = true → p tag = true) : nodes.Lacks q := by
  rw [lacks_iff nodes []] at lacks ⊢
  intro e member
  cases holds : q e.tag with
  | false => rfl
  | true => exact (within e.tag holds).symm.trans (lacks e member)

theorem filter_of_lacks (lacks : nodes.Lacks p) (above : List Tag) :
    (nodes.elements above).filter (p ·.tag) = [] := by
  rw [List.filter_eq_nil_iff]
  exact fun e member => by simp [(lacks_iff nodes above).mp lacks e member]

theorem Lacks.mem (lacks : nodes.Lacks p) {above : List Tag} {e : Element}
    (member : e ∈ nodes.elements above) : p e.tag = false ∧ e.inside.Lacks p := by
  induction nodes generalizing above with
  | nil => cases member
  | text kind content next ih => exact ih lacks member
  | element tag inside next ihInside ihNext =>
    obtain ⟨here, within, behind⟩ := lacks
    simp only [elements, List.mem_cons, List.mem_append] at member
    rcases member with rfl | member | member
    · exact ⟨here, within⟩
    · exact ihInside within member
    · exact ihNext behind member

end BoardMigration.Html.Nodes
