import BoardMigration.Proofs.Text.Words

/-! What is left of a text when blanks are taken out of it: characters of the text, and all that are no blanks. -/
namespace BoardMigration.Text

/-- The characters that are no blanks. -/
def solid (text : List Char) : List Char := text.filter (!isBlank ·)

@[simp] theorem solid_append (text rest : List Char) : solid (text ++ rest) = solid text ++ solid rest :=
  List.filter_append ..

theorem solid_blank {c : Char} (blank : isBlank c = true) (rest : List Char) : solid (c :: rest) = solid rest := by
  simp [solid, blank]

theorem solid_squeeze (text : List Char) : solid (squeeze text) = solid text := by
  fun_induction squeeze text with
  | case1 => rfl
  | case2 c blank => rw [solid_blank blank, solid_blank (by decide)]
  | case3 c blank d rest again ih => rw [ih, solid_blank blank]
  | case4 c blank d rest stops ih => rw [solid_blank (by decide), ih, solid_blank blank]
  | case5 c rest stays ih =>
    simp only [solid, List.filter_cons] at ih ⊢
    rw [ih]

theorem mem_squeeze {text : List Char} {c : Char} (member : c ∈ squeeze text) : c = ' ' ∨ c ∈ text := by
  fun_induction squeeze text with
  | case1 => exact absurd member List.not_mem_nil
  | case2 => exact .inl (List.mem_singleton.mp member)
  | case3 d blank e rest again ih => exact (ih member).imp_right (List.mem_cons_of_mem d)
  | case4 d blank e rest stops ih =>
    rcases List.mem_cons.mp member with same | later
    · exact .inl same
    · exact (ih later).imp_right (List.mem_cons_of_mem d)
  | case5 d rest stays ih =>
    rcases List.mem_cons.mp member with same | later
    · exact .inr (List.mem_cons.mpr (.inl same))
    · exact (ih later).imp_right (List.mem_cons_of_mem d)

theorem mem_of_mem_words {text word : List Char} {c : Char} (member : word ∈ words text) (inside : c ∈ word) :
    c ∈ text := by
  fun_induction words text generalizing word with
  | case1 => cases member
  | case2 d rest blank ih => exact List.mem_cons_of_mem d (ih member inside)
  | case3 d solid =>
    obtain rfl := List.mem_singleton.mp member
    exact inside
  | case4 d solid e rest blank ih =>
    rcases List.mem_cons.mp member with rfl | later
    · exact List.mem_cons.mpr (.inl (List.mem_singleton.mp inside))
    · exact List.mem_cons_of_mem d (ih later inside)
  | case5 d solid e rest joined none ih =>
    exact absurd none (words_ne_nil (by simpa using joined))
  | case6 d solid e rest joined first more found ih =>
    rw [found] at ih member
    rcases List.mem_cons.mp member with rfl | later
    · rcases List.mem_cons.mp inside with same | within
      · exact List.mem_cons.mpr (.inl same)
      · exact List.mem_cons_of_mem d (ih List.mem_cons_self within)
    · exact List.mem_cons_of_mem d (ih (List.mem_cons_of_mem first later) inside)

theorem mem_collapse {text : List Char} {c : Char} (member : c ∈ collapse text) : c = ' ' ∨ c ∈ text := by
  have joined (parts : List (List Char)) (member : c ∈ [' '].intercalate parts) : c = ' ' ∨ ∃ part ∈ parts, c ∈ part := by
    induction parts with
    | nil => exact absurd member List.not_mem_nil
    | cons part rest ih =>
      cases rest with
      | nil => exact .inr ⟨part, List.mem_cons_self, by simpa using member⟩
      | cons next rest =>
        rw [List.intercalate_cons_cons, List.append_assoc] at member
        rcases List.mem_append.mp member with here | later
        · exact .inr ⟨part, List.mem_cons_self, here⟩
        · rcases List.mem_cons.mp later with same | behind
          · exact .inl same
          · exact (ih behind).imp_right fun ⟨other, found, inside⟩ => ⟨other, List.mem_cons_of_mem part found, inside⟩
  exact (joined (words text) member).imp_right fun ⟨_, found, inside⟩ => mem_of_mem_words found inside

/-- A collapsed text does not begin with a blank. -/
theorem head?_collapse {text : List Char} {c : Char} (first : c ∈ (collapse text).head?) : isBlank c = false := by
  rw [collapse] at first
  cases found : words text with
  | nil =>
    rw [found] at first
    cases first
  | cons word more =>
    have member : word ∈ words text := by simp [found]
    obtain ⟨some_, solid⟩ := of_mem_words member
    obtain ⟨d, behind, rfl⟩ := List.exists_cons_of_ne_nil some_
    have head : ([' '].intercalate ((d :: behind) :: more)).head? = some d := by
      cases more <;> rfl
    rw [found, head] at first
    obtain rfl := Option.some.inj first
    exact solid d List.mem_cons_self

/-- What outlives the loss of a blank at either end outlives the loss of all of them. -/
theorem trim_induction {motive : List Char → Prop} {p : Char → Bool} {text : List Char}
    (front : ∀ c rest, p c = true → motive (c :: rest) → motive rest)
    (back : ∀ c rest, p c = true → motive (rest ++ [c]) → motive rest) (whole : motive text) :
    motive (trim p text) := by
  have leading (motive : List Char → Prop) (front : ∀ c rest, p c = true → motive (c :: rest) → motive rest)
      (text : List Char) (whole : motive text) : motive (text.dropWhile p) := by
    induction text with
    | nil => exact whole
    | cons c rest ih =>
      cases here : p c with
      | true => simpa [here] using ih (front c rest here whole)
      | false => simpa [here] using whole
  rw [trim]
  refine leading (fun text => motive text.reverse) ?_ _ ?_
  · intro c rest here still
    exact back c rest.reverse here (by simpa using still)
  · rw [List.reverse_reverse]
    exact leading motive front text whole

end BoardMigration.Text
