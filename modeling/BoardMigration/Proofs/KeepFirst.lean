import Mathlib.Data.List.Nodup
import Mathlib.Data.List.Perm.Basic

/-! Lists that keep the first element of each key. Elements are added one by one, and one whose key is
there already is left out. What such a list holds under a key is the first that ever came with it. -/
namespace BoardMigration

theorem filterMap_cons_toList {α β : Type} (f : α → Option β) (a : α) (rest : List α) :
    (a :: rest).filterMap f = (f a).toList ++ rest.filterMap f := by
  cases found : f a <;> simp [found]

variable {α κ : Type} [DecidableEq κ] (key : α → κ)

/-- The list after one more element has come. -/
def keep (kept : List α) (a : α) : List α :=
  if key a ∈ kept.map key then kept else kept ++ [a]

def keepFirst (kept l : List α) : List α := l.foldl (keep key) kept

theorem keepFirst_append (kept first second : List α) :
    keepFirst key kept (first ++ second) = keepFirst key (keepFirst key kept first) second :=
  List.foldl_append

theorem find?_keep (kept : List α) (a : α) (k : κ) :
    (keep key kept a).find? (key · == k) = (kept ++ [a]).find? (key · == k) := by
  unfold keep
  split
  · next taken =>
    obtain ⟨b, member, same⟩ := List.mem_map.mp taken
    rw [List.find?_append]
    by_cases here : key a = k
    · have found : (kept.find? (key · == k)).isSome := by
        rw [List.find?_isSome]
        exact ⟨b, member, by simpa [here] using same⟩
      rw [Option.or_of_isSome found]
    · simp [here]
  · rfl

/-- Under a key is the first element of that key. -/
theorem find?_keepFirst (kept l : List α) (k : κ) :
    (keepFirst key kept l).find? (key · == k) = (kept ++ l).find? (key · == k) := by
  induction l generalizing kept with
  | nil => simp [keepFirst]
  | cons a rest ih =>
    have step : keepFirst key kept (a :: rest) = keepFirst key (keep key kept a) rest := rfl
    rw [step, ih, List.find?_append, find?_keep, ← List.find?_append]
    simp

theorem nodup_keep {kept : List α} (distinct : (kept.map key).Nodup) (a : α) :
    ((keep key kept a).map key).Nodup := by
  unfold keep
  split
  · exact distinct
  · next free =>
    rw [List.map_append]
    apply distinct.append (List.nodup_singleton _)
    simpa using free

theorem nodup_keepFirst {kept : List α} (distinct : (kept.map key).Nodup) (l : List α) :
    ((keepFirst key kept l).map key).Nodup := by
  induction l generalizing kept with
  | nil => exact distinct
  | cons a rest ih => exact ih (nodup_keep key distinct a)

theorem prefix_keepFirst (kept l : List α) : kept <+: keepFirst key kept l := by
  induction l generalizing kept with
  | nil => exact List.prefix_rfl
  | cons a rest ih =>
    have step : kept <+: keep key kept a := by
      unfold keep
      split
      · exact List.prefix_rfl
      · exact List.prefix_append _ _
    exact step.trans (ih _)

theorem mem_keepFirst {kept l : List α} {a : α} (member : a ∈ keepFirst key kept l) :
    a ∈ kept ∨ a ∈ l := by
  induction l generalizing kept with
  | nil => exact .inl member
  | cons b rest ih =>
    have later : a ∈ keepFirst key (keep key kept b) rest := member
    rcases ih later with early | late
    · unfold keep at early
      split at early
      · exact .inl early
      · rcases List.mem_append.mp early with old | new
        · exact .inl old
        · exact .inr (List.mem_cons.mpr (.inl (List.mem_singleton.mp new)))
    · exact .inr (List.mem_cons_of_mem _ late)

variable {key}

theorem find?_eq_some_iff {l : List α} (distinct : (l.map key).Nodup) {a : α} :
    l.find? (key · == key a) = some a ↔ a ∈ l := by
  constructor
  · exact List.mem_of_find?_eq_some
  · intro member
    cases found : l.find? (key · == key a) with
    | none => simpa using List.find?_eq_none.mp found a member
    | some b =>
      have same : key b = key a := by simpa using List.find?_some found
      rw [List.inj_on_of_nodup_map distinct (List.mem_of_find?_eq_some found) member same]

/-- Where no key comes twice, a key has at most one element. -/
theorem filter_eq_find? {l : List α} (distinct : (l.map key).Nodup) (k : κ) :
    l.filter (key · == k) = (l.find? (key · == k)).toList := by
  induction l with
  | nil => rfl
  | cons a rest ih =>
    rw [List.map_cons, List.nodup_cons] at distinct
    by_cases here : key a = k
    · have others : rest.filter (key · == k) = [] := by
        rw [List.filter_eq_nil_iff]
        intro b member same
        exact distinct.1 (List.mem_map.mpr ⟨b, member, (beq_iff_eq.mp same).trans here.symm⟩)
      simp [here, others]
    · simp [here, ih distinct.2]

/-- Lists without a key twice that hold the same under each key are the same but for their order. -/
theorem perm_of_find? {first second : List α} (distinctFirst : (first.map key).Nodup)
    (distinctSecond : (second.map key).Nodup)
    (same : ∀ k, first.find? (key · == k) = second.find? (key · == k)) : first.Perm second := by
  apply (List.perm_ext_iff_of_nodup (.of_map key distinctFirst) (.of_map key distinctSecond)).mpr
  intro a
  rw [← find?_eq_some_iff distinctFirst, same, find?_eq_some_iff distinctSecond]

/-- What is kept beforehand does not show in the end if and only if it would have been kept anyway. -/
theorem keepFirst_perm_iff {start kept l : List α} (distinct : (kept.map key).Nodup)
    (extends_ : start ⊆ kept) (distinctStart : (start.map key).Nodup) :
    (keepFirst key kept l).Perm (keepFirst key start l) ↔ kept ⊆ keepFirst key start l := by
  constructor
  · intro same a member
    exact same.subset ((prefix_keepFirst key kept l).subset member)
  · intro within
    apply perm_of_find? (nodup_keepFirst key distinct l) (nodup_keepFirst key distinctStart l)
    intro k
    rw [find?_keepFirst, List.find?_append]
    cases found : kept.find? (key · == k) with
    | some a =>
      have here : key a = k := by simpa using List.find?_some found
      have member := within (List.mem_of_find?_eq_some found)
      have same := (find?_eq_some_iff (nodup_keepFirst key distinctStart l)).mpr member
      rw [here] at same
      exact same.symm
    | none =>
      have missing : start.find? (key · == k) = none :=
        List.find?_eq_none.mpr fun a member => List.find?_eq_none.mp found a (extends_ member)
      rw [find?_keepFirst, List.find?_append, missing]

/-- What is first under a key hangs on the order only as far as elements of one key differ. -/
theorem find?_map_perm {β : Type} {first second : List α} (same : first.Perm second) (value : α → β)
    (agree : ∀ a ∈ first, ∀ b ∈ first, key a = key b → value a = value b) (k : κ) :
    (first.find? (key · == k)).map value = (second.find? (key · == k)).map value := by
  cases found : first.find? (key · == k) with
  | none =>
    have missing : second.find? (key · == k) = none :=
      List.find?_eq_none.mpr fun b member => List.find?_eq_none.mp found b (same.symm.subset member)
    rw [missing]
  | some a =>
    have member := List.mem_of_find?_eq_some found
    have keyA : key a = k := by simpa using List.find?_some found
    have there : (second.find? (key · == k)).isSome :=
      List.find?_isSome.mpr ⟨a, same.subset member, by simpa using keyA⟩
    obtain ⟨b, other⟩ := Option.isSome_iff_exists.mp there
    have keyB : key b = k := by simpa using List.find?_some other
    have inside := same.symm.subset (List.mem_of_find?_eq_some other)
    rw [other, Option.map_some, Option.map_some, agree a member b inside (keyA.trans keyB.symm)]

/-- As many elements are kept as there are keys. -/
theorem length_keepFirst_perm {first second : List α} (same : (first.map key).Perm (second.map key)) :
    (keepFirst key [] first).length = (keepFirst key [] second).length := by
  have empty : (([] : List α).map key).Nodup := List.nodup_nil
  have distinct (l : List α) : ((keepFirst key [] l).map key).Nodup := nodup_keepFirst key empty l
  have held (l : List α) (k : κ) : k ∈ (keepFirst key [] l).map key ↔ k ∈ l.map key := by
    have found := find?_keepFirst key [] l k
    rw [List.nil_append] at found
    have there := congrArg Option.isSome found
    rw [Bool.eq_iff_iff, List.find?_isSome, List.find?_isSome] at there
    simpa using there
  have keys : ((keepFirst key [] first).map key).Perm ((keepFirst key [] second).map key) := by
    apply (List.perm_ext_iff_of_nodup (distinct first) (distinct second)).mpr
    intro k
    rw [held, held, same.mem_iff]
  simpa using keys.length_eq

end BoardMigration
