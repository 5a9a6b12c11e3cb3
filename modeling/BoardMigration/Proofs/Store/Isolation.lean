import BoardMigration.Proofs.Store.Part

/-! Boards that share a database. Names behind different prefixes differ, as none of them ends in another.
So whatever gateways of one prefix are asked, at the same time or one after another, they leave the boards
of other prefixes alone and answer as if these were not there. -/
namespace BoardMigration.Store

open Schema (Table)

/-- What a gateway has of its own: whether it is open and in a transaction, and the categories it remembers. -/
structure Memory where
  isOpen : Bool
  categories : List (CategoryKey × Int)
  pending : Bool

structure Gateways where
  database : Database
  memory : Nat → Memory

namespace Gateways

def sink (gateways : Gateways) (tablePrefix : String) (i : Nat) : Sink where
  database := gateways.database
  tablePrefix
  isOpen := (gateways.memory i).isOpen
  categories := (gateways.memory i).categories
  pending := (gateways.memory i).pending

/-- The gateways of a prefix once one of them has been called. -/
def after (tablePrefix : String) (gateways : Gateways) (asked : Nat × Call) : Gateways :=
  let (i, call) := asked
  let s := call.after (gateways.sink tablePrefix i)
  { database := s.database, memory := Function.update gateways.memory i ⟨s.isOpen, s.categories, s.pending⟩ }

def afterAll (tablePrefix : String) (gateways : Gateways) (asked : List (Nat × Call)) : Gateways :=
  asked.foldl (after tablePrefix) gateways

def part (own : String → Bool) (gateways : Gateways) : Gateways :=
  { gateways with database := gateways.database.part own }

variable {own : String → Bool} {p : String}

theorem afterAll_part (inside : Sink.Inside own p) (gateways : Gateways) (asked : List (Nat × Call)) :
    (gateways.part own).afterAll p asked = (gateways.afterAll p asked).part own := by
  induction asked generalizing gateways with
  | nil => rfl
  | cons first rest ih =>
    obtain ⟨i, call⟩ := first
    have sink : (gateways.part own).sink p i = (gateways.sink p i).part own := rfl
    have step : (gateways.part own).after p (i, call) = (gateways.after p (i, call)).part own := by
      have same : call.after ((gateways.sink p i).part own) = _ := Call.after_part inside call
      simp only [after, sink, same]
      rfl
    rw [afterAll, List.foldl_cons, step]
    exact ih _

theorem afterAll_elsewhere (outside : Sink.Outside own p) (gateways : Gateways)
    (asked : List (Nat × Call)) :
    (gateways.afterAll p asked).database.part own = gateways.database.part own := by
  induction asked generalizing gateways with
  | nil => rfl
  | cons first rest ih => exact (ih _).trans (Call.after_elsewhere outside first.2)

end Gateways

/-- Whether a call counts no table of a board. No other call names a table. -/
def Call.Spares (p q : String) (call : Call) : Prop :=
  ∀ name, call = .count name → ∀ full, resolveName p .count name = .ok full →
    ownedBy q (foldName full) = false

/-- Gateways of one prefix do nothing to the board of another and do not notice it. -/
structure Isolated (p q : String) : Prop where
  names : ∀ a ∈ objectNames, ∀ b ∈ objectNames, foldName (p ++ a) ≠ foldName (q ++ b)
  /-- The tables with their rows stay, and the indexes on them. -/
  untouched : ∀ (gateways : Gateways) (asked : List (Nat × Call)),
    (gateways.afterAll p asked).database.part (ownedBy q) = gateways.database.part (ownedBy q)
  /-- Databases that are the same but for the other board get the same answers. -/
  unnoticed : ∀ first second : Gateways, first.memory = second.memory →
    first.database.part (!ownedBy q ·) = second.database.part (!ownedBy q ·) →
    ∀ (asked : List (Nat × Call)) (i : Nat) (call : Call), call.Spares p q →
      call.answer ((first.afterAll p asked).sink p i) = call.answer ((second.afterAll p asked).sink p i)
  counted : ∀ name ∈ Table.names, (Call.count name).Spares p q
  /-- No index has a name of the other board but those on its tables. -/
  indexes : ∀ db, Worked db → ∀ i ∈ db.indexes, ∀ name ∈ objectNames,
    foldName i.name = foldName (q ++ name) → ownedBy q (foldName i.table) = true

/-- Prefixes that differ in more than case keep their boards apart. -/
theorem Plain.isolated {p q : String} (plain : Plain p) (apart : foldName p ≠ foldName q) :
    Isolated p q where
  names := fun _ one _ other => apart_objects apart one other
  untouched := Gateways.afterAll_elsewhere (plain.outside apart)
  unnoticed := by
    intro first second memory others asked i call spares
    let own : String → Bool := (!ownedBy q ·)
    have inside : Sink.Inside own p := by
      intro statement name known full resolved
      exact congrArg (!·) (plain.outside apart statement name known full resolved)
    have answered (gateways : Gateways) :
        call.answer (((gateways.part own).afterAll p asked).sink p i) =
          call.answer ((gateways.afterAll p asked).sink p i) := by
      rw [Gateways.afterAll_part inside]
      exact Call.answer_part (s := (gateways.afterAll p asked).sink p i) inside
        fun name counts full resolved => congrArg (!·) (spares name counts full resolved)
    have same : first.part own = second.part own := by
      rw [Gateways.part, Gateways.part, memory]
      exact congrArg (Gateways.mk · second.memory) others
    rw [← answered first, ← answered second, same]
  counted := by
    rintro name known _ ⟨⟩ full resolved
    exact plain.outside apart .count name known full resolved
  indexes := fun _ worked _ member _ known named => worked.index_owned member known named

theorem Plain.isolated_empty : Plain "" ∧ foldName "" ≠ foldName "old_" ∧ Isolated "" "old_" := by
  have plain : Plain "" := by decide
  have apart : foldName "" ≠ foldName "old_" := by decide +kernel
  exact ⟨plain, apart, plain.isolated apart⟩

end BoardMigration.Store
