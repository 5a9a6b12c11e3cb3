import BoardMigration.Proofs.Run.Effects

/-! Runs into two targets of which one stands for the other. If they answer each record alike, however far
the run has come, the runs tell the same and end alike. -/
namespace BoardMigration.Target

variable {σ τ : Type}

/-- Related sinks answer every record alike and stay related. -/
structure Simulates (target : Target σ) (other : Target τ) (related : σ → τ → Prop) : Prop where
  answer : ∀ {s t}, related s t → ∀ record, (target.insert s record).1 = (other.insert t record).1
  insert : ∀ {s t}, related s t → ∀ record, related (target.insert s record).2 (other.insert t record).2
  close : ∀ {s t}, related s t → related (target.close s) (other.close t)

namespace Simulates

variable {target : Target σ} {other : Target τ} {related : σ → τ → Prop} {s : σ} {t : τ}

theorem carry (simulates : target.Simulates other related) (here : related s t) (o : Outcome)
    (effect : Effect) : (target.carry s o effect).2 = (other.carry t o effect).2 ∧
      related (target.carry s o effect).1 (other.carry t o effect).1 := by
  cases effect with
  | write record => exact ⟨congrArg o.count (simulates.answer here record), simulates.insert here record⟩
  | fail error => exact ⟨rfl, here⟩
  | wait posts => exact ⟨rfl, here⟩

theorem carryAll (simulates : target.Simulates other related) (here : related s t) (o : Outcome)
    (effects : List Effect) : (target.carryAll s o effects).2 = (other.carryAll t o effects).2 ∧
      related (target.carryAll s o effects).1 (other.carryAll t o effects).1 := by
  induction effects generalizing s t o with
  | nil => exact ⟨rfl, here⟩
  | cons effect rest ih =>
    obtain ⟨same, next⟩ := simulates.carry here o effect
    rw [carryAll_cons, carryAll_cons, same]
    exact ih next _

theorem carryFiles (simulates : target.Simulates other related) (here : related s t)
    (files : List SourceFile) (effects : List (List Effect)) :
    (target.carryFiles s files effects).2 = (other.carryFiles t files effects).2 ∧
      related (target.carryFiles s files effects).1 (other.carryFiles t files effects).1 := by
  induction files generalizing s t effects with
  | nil => exact ⟨rfl, here⟩
  | cons file rest ih =>
    cases effects with
    | nil => exact ⟨rfl, here⟩
    | cons first others =>
      obtain ⟨same, next⟩ := simulates.carryAll here { name := file.name } first
      obtain ⟨ends, last⟩ := ih next others
      refine ⟨?_, last⟩
      simp only [Target.carryFiles, same, ends]

theorem run (simulates : target.Simulates other related) (here : related s t) (fallback : Int)
    (files : List SourceFile) (halt : Halt) :
    let one := target.run s fallback files halt
    let another := other.run t fallback files halt
    one.reports = another.reports ∧ one.summary = another.summary ∧ related one.sink another.sink := by
  intro one another
  let routed := Resolution.routeAll {} (halt.taken files)
  obtain ⟨ends, between⟩ := simulates.carryFiles here (halt.taken files) routed.2
  by_cases broken : halt.ending files.length = .aborted
  · simp only [one, another, Target.run, processAll_eq, broken]
    exact ⟨by rw [ends], trivial, simulates.close between⟩
  · let assigned := (routed.1.flush fallback).2
    obtain ⟨last, final⟩ :=
      simulates.carryAll between { name := unresolvedName } (Effect.ofAssigned assigned)
    simp only [one, another, run_eq _ _ _ _ _ broken]
    exact ⟨by rw [ends], by rw [ends, last], simulates.close final⟩

end Simulates
end BoardMigration.Target
