import BoardMigration.Proofs.KeepFirst
import BoardMigration.Proofs.Run.Willing
import BoardMigration.Run.Memory

/-! What a run leaves in memory: of its insertions, the first of each identity. -/
namespace BoardMigration.Memory

theorem willing : Memory.target.Willing := fun _ _ => ⟨_, rfl⟩

theorem insert_eq (memory : Memory) (record : Record) :
    (Memory.target.insert memory record).2 = keep Record.identity memory record := by
  have taken : (memory.any (·.identity == record.identity)) = true ↔
      record.identity ∈ memory.map Record.identity := by
    simp
  simp only [target, insert, keep, taken]
  split <;> rfl

theorem insertAll_eq (memory : Memory) (records : List Record) :
    Memory.target.insertAll memory records = keepFirst Record.identity memory records := by
  have step : (fun sink record => (Memory.target.insert sink record).2) = keep Record.identity := by
    funext memory record
    exact insert_eq memory record
  rw [Target.insertAll, step, keepFirst]

/-- Written records are those that are new. -/
theorem carryAll_written (memory : Memory) (o : Outcome) (effects : List Effect) :
    (Memory.target.carryAll memory o effects).2.written + memory.length =
      o.written + (Memory.target.carryAll memory o effects).1.length := by
  induction effects generalizing memory o with
  | nil => rfl
  | cons effect rest ih =>
    have step := ih (Memory.target.carry memory o effect).1 (Memory.target.carry memory o effect).2
    rw [Target.carryAll_cons]
    cases effect with
    | write record =>
      have here : (Memory.target.carry memory o (.write record)).2.written + memory.length =
          o.written + (Memory.target.carry memory o (.write record)).1.length := by
        simp only [Target.carry, target, insert]
        split
        · rfl
        · simp [Outcome.count]
          omega
      omega
    | fail error => exact step
    | wait posts => exact step

theorem carryFiles_written (memory : Memory) (r : Resolution) (files : List SourceFile) :
    Target.total Outcome.written
        (Target.outcomes (Memory.target.carryFiles memory files (r.routeAll files).2).2) +
      memory.length = (Memory.target.carryFiles memory files (r.routeAll files).2).1.length := by
  induction files generalizing memory r with
  | nil => simp [Target.carryFiles, Target.outcomes, Target.total]
  | cons file rest ih =>
    have here := carryAll_written memory { name := file.name } (r.routeContents file.contents).2
    have later := ih (Memory.target.carryAll memory { name := file.name }
      (r.routeContents file.contents).2).1 (r.routeContents file.contents).1
    simp only [Resolution.routeAll, Target.carryFiles]
    cases kind : file.contents with
    | broken message =>
      rw [kind] at later
      exact later
    | _ =>
      rw [kind] at here later
      change _ = 0 + _ at here
      simp only [Target.endOf, Target.outcomes, List.filterMap_cons, Except.toOption, Target.total]
      simp only [Target.outcomes] at later
      omega

/-- A run that starts with an empty memory writes as many records as it leaves. -/
theorem account_written (fallback : Int) (files : List SourceFile) :
    (Memory.target.account [] fallback files).written =
      (keepFirst Record.identity [] (insertions files fallback)).length := by
  have early := carryFiles_written [] {} files
  have late := carryAll_written (Memory.target.carryFiles [] files (Resolution.routeAll {} files).2).1
    { name := unresolvedName } (Effect.ofAssigned ((Resolution.routeAll {} files).1.flush fallback).2)
  have left : (Memory.target.carryAll
      (Memory.target.carryFiles [] files (Resolution.routeAll {} files).2).1 { name := unresolvedName }
      (Effect.ofAssigned ((Resolution.routeAll {} files).1.flush fallback).2)).1 =
        keepFirst Record.identity [] (insertions files fallback) := by
    rw [Target.carryAll_sink, Target.carryFiles_sink, Effect.records_ofAssigned,
      ← Target.insertAll_append, insertAll_eq]
    rfl
  rw [← left]
  simp only [Target.account, Target.summarize, Target.total_append, Target.total]
  change Target.total Outcome.written _ + 0 = _ at early
  change _ = 0 + _ at late
  change Target.total Outcome.written _ + (_ + 0) = _
  omega

end BoardMigration.Memory
