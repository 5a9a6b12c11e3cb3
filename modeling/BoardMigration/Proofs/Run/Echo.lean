import BoardMigration.Proofs.Run.Effects

/-! Running twice over the same files. If the target answers the second time as it did the first, except
that nothing is new to it, then the second summary is the first one with all that was written counted as
present. -/
namespace BoardMigration

namespace Target

variable {σ : Type} (target : Target σ)

/-- Whether a sink `t` answers the records of a run like `s` did, except that none is new to it. -/
def Echoes : σ → σ → List Record → Prop
  | _, _, [] => True
  | s, t, record :: rest =>
    (target.insert t record).1 = (target.insert s record).1.map (fun _ => false) ∧
      Echoes (target.insert s record).2 (target.insert t record).2 rest

variable {target}

theorem echoes_append {s t : σ} {first second : List Record} :
    target.Echoes s t (first ++ second) ↔ target.Echoes s t first ∧
      target.Echoes (target.insertAll s first) (target.insertAll t first) second := by
  induction first generalizing s t with
  | nil => simp [Echoes, insertAll]
  | cons record rest ih =>
    simp only [List.cons_append, Echoes, ih, and_assoc]
    rfl

end Target

/-- An outcome of which all that was written before is present now. -/
structure Outcome.Echo (first second : Outcome) : Prop where
  name : second.name = first.name
  written : second.written = 0
  present : second.present = first.written + first.present
  deferred : second.deferred = first.deferred
  errors : second.errors = first.errors

theorem Outcome.Echo.count {first second : Outcome} (echo : first.Echo second)
    (answer : Except WriteFault Bool) :
    (first.count answer).Echo (second.count (answer.map fun _ => false)) := by
  rcases answer with fault | _ | _ <;> constructor <;>
    simp [Outcome.count, Except.map, Outcome.fail, echo.name, echo.written, echo.present, echo.deferred,
      echo.errors]
  all_goals omega

namespace Target

variable {σ : Type} {target : Target σ}

theorem carryAll_echo {s t : σ} {effects : List Effect} {first second : Outcome}
    (echoes : target.Echoes s t (Effect.records effects)) (echo : first.Echo second) :
    (target.carryAll s first effects).2.Echo (target.carryAll t second effects).2 := by
  induction effects generalizing s t first second with
  | nil => exact echo
  | cons effect rest ih =>
    cases effect with
    | write record =>
      obtain ⟨answer, later⟩ := echoes
      apply ih later
      simp only [answer]
      exact echo.count _
    | fail error =>
      apply ih echoes
      exact ⟨echo.name, echo.written, echo.present, echo.deferred, by simp [Outcome.fail, echo.errors]⟩
    | wait posts =>
      apply ih echoes
      exact ⟨echo.name, echo.written, echo.present, by simp [echo.deferred], echo.errors⟩

/-- How a file ends when it is gone through again. -/
inductive FileEnd.Echo : FileEnd → FileEnd → Prop
  | done {first second : Outcome} (echo : first.Echo second) : Echo (.ok first) (.ok second)
  | broken (message : String) : Echo (.error message) (.error message)

theorem endOf_echo (contents : Contents) {first second : Outcome} (echo : first.Echo second) :
    FileEnd.Echo (endOf contents first) (endOf contents second) := by
  cases contents with
  | broken message => exact .broken message
  | _ => exact .done echo

theorem carryFiles_echo {s t : σ} (r : Resolution) (files : List SourceFile)
    (echoes : target.Echoes s t ((r.routeAll files).2.flatMap Effect.records)) :
    List.Forall₂ FileEnd.Echo (target.carryFiles s files (r.routeAll files).2).2
      (target.carryFiles t files (r.routeAll files).2).2 := by
  induction files generalizing s t r with
  | nil => exact .nil
  | cons file rest ih =>
    simp only [Resolution.routeAll, List.flatMap_cons, echoes_append] at echoes
    obtain ⟨here, later⟩ := echoes
    have fresh : Outcome.Echo { name := file.name } { name := file.name } := ⟨rfl, rfl, rfl, rfl, rfl⟩
    refine .cons (endOf_echo file.contents (carryAll_echo here fresh)) ?_
    apply ih
    rwa [← carryAll_sink, ← carryAll_sink target _ { name := file.name }] at later

theorem FileEnd.Echo.errors {first second : FileEnd} (echo : FileEnd.Echo first second) :
    FileEnd.errors second = FileEnd.errors first := by
  cases echo with
  | done echo => simp [FileEnd.errors, echo.name, echo.errors]
  | broken => rfl

theorem errors_of_echoes {first second : List FileEnd} (echoes : List.Forall₂ FileEnd.Echo first second) :
    second.map FileEnd.errors = first.map FileEnd.errors := by
  induction echoes with
  | nil => rfl
  | cons here _ ih => rw [List.map_cons, List.map_cons, ih, here.errors]

theorem outcomes_of_echoes {first second : List FileEnd}
    (echoes : List.Forall₂ FileEnd.Echo first second) :
    List.Forall₂ Outcome.Echo (outcomes first) (outcomes second) := by
  induction echoes with
  | nil => exact .nil
  | cons here _ ih =>
    cases here with
    | done echo => exact .cons echo ih
    | broken => exact ih

theorem total_of_echoes {first second : List Outcome} (echoes : List.Forall₂ Outcome.Echo first second) :
    total (·.written) second = 0 ∧
    total (·.present) second = total (·.written) first + total (·.present) first ∧
    total (·.deferred) second = total (·.deferred) first := by
  induction echoes with
  | nil => exact ⟨rfl, rfl, rfl⟩
  | cons here _ ih =>
    obtain ⟨written, present, deferred⟩ := ih
    simp only [total, written, present, deferred, here.written, here.present, here.deferred]
    exact ⟨trivial, by omega, trivial⟩

end Target

/-- The summary of a run that did again what another had done. -/
structure Summary.Repeats (again first : Summary) : Prop where
  files : again.files = first.files
  written : again.written = 0
  present : again.present = first.written + first.present
  processed : again.processed = first.processed
  failed : again.failed = first.failed
  deferred : again.deferred = first.deferred
  flushed : again.flushed = first.flushed
  stopped : again.stopped = first.stopped
  errors : again.errors = first.errors

namespace Target

variable {σ : Type} {target : Target σ}

theorem summarize_echo (files : Nat) {first second : List FileEnd} {last again : Outcome}
    (ends : List.Forall₂ FileEnd.Echo first second) (echo : last.Echo again) (flushed : Nat)
    (stopped : Bool) :
    (summarize files second again flushed stopped).Repeats
      (summarize files first last flushed stopped) := by
  have errors := errors_of_echoes ends
  obtain ⟨written, present, deferred⟩ := total_of_echoes
    (List.rel_append (outcomes_of_echoes ends) (.cons echo .nil))
  have counted (p : List (String × FileError) → Bool) :
      second.countP (p ·.errors) = first.countP (p ·.errors) := by
    have whole := congrArg (List.countP p) errors
    rwa [List.countP_map, List.countP_map] at whole
  refine ⟨rfl, written, present, ?_, ?_, deferred, rfl, rfl, ?_⟩
  · exact counted fun errors => !!errors.isEmpty
  · exact counted fun errors => !errors.isEmpty
  · simp only [summarize, List.flatMap_def, errors, echo.name, echo.errors]

/-- A run over a target that answers like before ends like before. -/
theorem account_echo {s t : σ} (fallback : Int) (files : List SourceFile)
    (echoes : target.Echoes s t (insertions files fallback)) :
    (target.account t fallback files).Repeats (target.account s fallback files) := by
  obtain ⟨early, late⟩ := echoes_append.mp echoes
  have ends := carryFiles_echo {} files early
  simp only [earlyRecords, ← carryFiles_sink, latePosts, ← Effect.records_ofAssigned] at late
  have fresh : Outcome.Echo { name := unresolvedName } { name := unresolvedName } :=
    ⟨rfl, rfl, rfl, rfl, rfl⟩
  exact summarize_echo files.length ends (carryAll_echo late fresh) _ false

end Target
end BoardMigration
