import Mathlib.Data.List.Forall2

/-! Steps that succeed or avoid a fault, one after another and for each element of a list, lists that are
related element by element, and what is looked up in one. -/
namespace BoardMigration

theorem mem_of_lookup {α β : Type} [BEq α] [LawfulBEq α] {pairs : List (α × β)} {key : α} {value : β}
    (found : pairs.lookup key = some value) : (key, value) ∈ pairs := by
  obtain ⟨before, behind, rfl, -⟩ := List.lookup_eq_some_iff.mp found
  exact List.mem_append_right before List.mem_cons_self

theorem bind_ok {α β ε : Type} {first : Except ε α} {rest : α → Except ε β} {b : β}
    (done : first >>= rest = .ok b) : ∃ a, first = .ok a ∧ rest a = .ok b := by
  cases first with
  | error e => cases done
  | ok a => exact ⟨a, rfl, done⟩

/-- What a read that succeeds for all elements gives for each. -/
theorem mapM_ok {α β ε : Type} {f : α → Except ε β} {l : List α} {found : List β}
    (done : l.mapM f = .ok found) : List.Forall₂ (fun a b => f a = .ok b) l found := by
  induction l generalizing found with
  | nil =>
    obtain rfl := Except.ok.inj done
    exact .nil
  | cons a rest ih =>
    rw [List.mapM_cons] at done
    obtain ⟨b, first, others⟩ := bind_ok done
    obtain ⟨more, later, whole⟩ := bind_ok others
    obtain rfl := Except.ok.inj whole
    exact .cons first (ih later)

section

variable {α β ε : Type} {bad : ε → Prop}

/-- A step that may fail, but not in some way. -/
def Avoids (bad : ε → Prop) (read : Except ε α) : Prop := ∀ error, read = .error error → ¬ bad error

theorem avoids_ok (bad : ε → Prop) (a : α) : Avoids bad (.ok a : Except ε α) := by
  intro error failed
  cases failed

theorem avoids_error {error : ε} (harmless : ¬ bad error) : Avoids bad (.error error : Except ε α) := by
  intro other failed
  cases failed
  exact harmless

theorem Avoids.bind {first : Except ε α} {rest : α → Except ε β} (early : Avoids bad first)
    (late : ∀ a, Avoids bad (rest a)) : Avoids bad (first >>= rest) := by
  cases first with
  | error error => exact avoids_error (early error rfl)
  | ok a => exact late a

theorem Avoids.map {read : Except ε α} (avoids : Avoids bad read) (f : α → β) :
    Avoids bad (read.map f) := by
  cases read with
  | error error => exact avoids_error (avoids error rfl)
  | ok a => exact avoids_ok bad _

theorem Avoids.foldlM {step : β → α → Except ε β} (each : ∀ b a, Avoids bad (step b a)) (l : List α)
    (b : β) : Avoids bad (l.foldlM step b) := by
  induction l generalizing b with
  | nil => exact avoids_ok bad b
  | cons a rest ih =>
    rw [List.foldlM_cons]
    exact (each b a).bind ih

/-- Steps that go well for each element go well for the list. -/
theorem mapM_forall {f : α → Except ε β} {R : α → β → Prop} (l : List α)
    (each : ∀ a ∈ l, ∃ b, f a = .ok b ∧ R a b) :
    ∃ found, l.mapM f = .ok found ∧ List.Forall₂ R l found := by
  induction l with
  | nil => exact ⟨[], rfl, .nil⟩
  | cons a rest ih =>
    rw [List.forall_mem_cons] at each
    obtain ⟨b, first, here⟩ := each.1
    obtain ⟨found, others, related⟩ := ih each.2
    refine ⟨b :: found, ?_, .cons here related⟩
    rw [List.mapM_cons, first, others]
    rfl

theorem mapM_congr {f g : α → Except ε β} {l : List α} (same : ∀ a ∈ l, f a = g a) :
    l.mapM f = l.mapM g := by
  induction l with
  | nil => rfl
  | cons a rest ih =>
    rw [List.forall_mem_cons] at same
    rw [List.mapM_cons, List.mapM_cons, same.1, ih same.2]

/-- Steps that give one list are the same for each element. -/
theorem mapM_eq_iff {f g : α → Except ε β} {l : List α} {found : List β} (done : l.mapM g = .ok found) :
    l.mapM f = l.mapM g ↔ ∀ a ∈ l, f a = g a := by
  refine ⟨fun same => ?_, mapM_congr⟩
  have both := mapM_ok done
  have others := mapM_ok (same.trans done)
  clear done same
  induction both with
  | nil => simp
  | cons here _ ih =>
    obtain ⟨other, behind⟩ := List.forall₂_cons.mp others
    exact List.forall_mem_cons.mpr ⟨other.trans here.symm, ih behind⟩

/-- Steps whose results look alike give lists that look alike. -/
theorem map_mapM {γ : Type} {f g : α → Except ε β} {view : β → γ}
    (alike : ∀ a, (f a).map view = (g a).map view) (l : List α) :
    (l.mapM f).map (List.map view) = (l.mapM g).map (List.map view) := by
  induction l with
  | nil => rfl
  | cons a rest ih =>
    have apart (h : α → Except ε β) : ((a :: rest).mapM h).map (List.map view) =
        (h a).map view >>= fun c => ((rest.mapM h).map (List.map view)).map (c :: ·) := by
      rw [List.mapM_cons]
      cases h a with
      | error e => rfl
      | ok b => cases rest.mapM h <;> rfl
    rw [apart, apart, alike, ih]

/-- Reads that look alike go well or fail alike. -/
theorem ok_of_map_eq {γ : Type} {read : Except ε α} {other : Except ε β} {view : α → γ} {look : β → γ}
    (alike : read.map view = other.map look) {a : α} (done : read = .ok a) : ∃ b, other = .ok b := by
  subst done
  cases other with
  | error e => cases alike
  | ok b => exact ⟨b, rfl⟩

/-- What is made of reads that look alike looks alike when no more is seen of it. -/
theorem map_map_congr {γ δ : Type} {read other : Except ε α} {view : α → β} {make : α → γ} {look : γ → δ}
    (alike : read.map view = other.map view)
    (through : ∀ a b, view a = view b → look (make a) = look (make b)) :
    (read.map make).map look = (other.map make).map look := by
  cases read <;> cases other <;>
    simp only [Except.map, Except.ok.injEq, Except.error.injEq, reduceCtorEq] at alike ⊢
  · exact alike
  · exact through _ _ alike

end

variable {α β : Type} {R : α → β → Prop} {l : List α} {m : List β}

theorem exists_of_mem_right (related : List.Forall₂ R l m) {b : β} (member : b ∈ m) :
    ∃ a ∈ l, R a b := by
  obtain ⟨i, bound, rfl⟩ := List.mem_iff_getElem.mp member
  have inside : i < l.length := related.length_eq ▸ bound
  exact ⟨l[i], List.getElem_mem inside, related.get inside bound⟩

theorem exists_of_mem_left (related : List.Forall₂ R l m) {a : α} (member : a ∈ l) : ∃ b ∈ m, R a b :=
  exists_of_mem_right (R := flip R) related.flip member

theorem forall₂_zipIdx (related : List.Forall₂ R l m) (k : Nat) :
    List.Forall₂ (fun a b => R a.1 b.1 ∧ a.2 = b.2) (l.zipIdx k) (m.zipIdx k) := by
  induction related generalizing k with
  | nil => exact .nil
  | cons here _ ih => exact .cons ⟨here, rfl⟩ (ih (k + 1))

end BoardMigration
