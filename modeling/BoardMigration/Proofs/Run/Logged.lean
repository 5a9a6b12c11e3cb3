import BoardMigration.Proofs.Run.Effects

/-! Watching a run. A target that also keeps a log of what it is asked for runs as it would without,
and the log is the list of the run's insertions. Each insertion is counted once: as written, as present
or by an error that says that it failed. -/
namespace BoardMigration

/-- How errors begin that tell of a record which could not be written. -/
def failedWriteTexts : List String := ["SQL error: ", "Couldn't write record: "]

/-- Whether an error tells of a failed write. What nobody foresaw does not, whatever its text. -/
def FileError.tellsOfWrite : FileError → Bool
  | .unexpected _ => false
  | e => failedWriteTexts.any (·.toList.isPrefixOf e.message.toList)

theorem tellsOfWrite_write (fault : WriteFault) : (FileError.write fault).tellsOfWrite = true := by
  change failedWriteTexts.any (·.toList.isPrefixOf fault.message.toList) = true
  rw [List.any_eq_true]
  cases fault with
  | refused message =>
    refine ⟨"SQL error: ", List.mem_cons_self, List.isPrefixOf_iff_prefix.mpr ⟨message.toList, ?_⟩⟩
    exact (String.toList_append (s := "SQL error: ") (t := message)).symm
  | other message =>
    refine ⟨"Couldn't write record: ", by simp [failedWriteTexts],
      List.isPrefixOf_iff_prefix.mpr ⟨message.toList, ?_⟩⟩
    exact (String.toList_append (s := "Couldn't write record: ") (t := message)).symm

/-- Faults of the input are told apart from failed writes by their first letter. -/
theorem tellsOfWrite_input (message : String) :
    failedWriteTexts.any (·.toList.isPrefixOf (s!"Error in input data: {message}").toList) =
      false := by
  have text : (s!"Error in input data: {message}").toList =
      "Error in input data: ".toList ++ message.toList :=
    String.toList_append (s := "Error in input data: ") (t := message)
  rw [text]
  rfl

/-- The text tells failed writes from all other errors. -/
theorem tellsOfWrite_iff (e : FileError) : e.tellsOfWrite = true ↔ ∃ fault, e = .write fault := by
  have quiet (other : FileError) (silent : other.tellsOfWrite = false)
      (apart : ∀ fault, other ≠ .write fault) :
      other.tellsOfWrite = true ↔ ∃ fault, other = .write fault := by
    simp [silent, apart]
  cases e with
  | write fault => exact ⟨fun _ => ⟨fault, rfl⟩, fun _ => tellsOfWrite_write fault⟩
  | unreadable => exact quiet _ (by decide) (by simp)
  | garbled => exact quiet _ (by decide) (by simp)
  | malformed error => exact quiet _ (tellsOfWrite_input error.message) (by simp)
  | conflict conflict => exact quiet _ (tellsOfWrite_input conflict.message) (by simp)
  | unexpected message => exact quiet _ rfl (by simp)

namespace Target

variable {σ : Type} (target : Target σ)

/-- A target that keeps the records it is asked to insert, in order. -/
def logged : Target (σ × List Record) where
  insert s record :=
    let (answer, sink) := target.insert s.1 record
    (answer, (sink, s.2 ++ [record]))
  close s := (target.close s.1, s.2)

theorem carryAll_logged (sink : σ) (log : List Record) (o : Outcome) (effects : List Effect) :
    target.logged.carryAll (sink, log) o effects =
      (((target.carryAll sink o effects).1, log ++ Effect.records effects),
        (target.carryAll sink o effects).2) := by
  induction effects generalizing sink log o with
  | nil => simp [carryAll]
  | cons effect rest ih =>
    rw [carryAll]
    cases effect with
    | write record =>
      have step := ih (target.insert sink record).2 (log ++ [record])
        (o.count (target.insert sink record).1)
      rw [List.append_assoc] at step
      exact step
    | fail error => exact ih sink log (o.fail error)
    | wait posts => exact ih sink log _

theorem carryFiles_logged (sink : σ) (log : List Record) (r : Resolution) (files : List SourceFile) :
    target.logged.carryFiles (sink, log) files (r.routeAll files).2 =
      (((target.carryFiles sink files (r.routeAll files).2).1,
          log ++ (r.routeAll files).2.flatMap Effect.records),
        (target.carryFiles sink files (r.routeAll files).2).2) := by
  induction files generalizing sink log r with
  | nil => simp [Resolution.routeAll, carryFiles]
  | cons file rest ih =>
    simp only [Resolution.routeAll, carryFiles, carryAll_logged, ih, List.flatMap_cons,
      List.append_assoc]

/-- The log of a run holds its insertions, and keeping it changes nothing. -/
theorem run_logged (sink : σ) (fallback : Int) (files : List SourceFile) (halt : Halt)
    (unbroken : halt.ending files.length ≠ .aborted) :
    target.logged.run (sink, []) fallback files halt =
      let done := target.run sink fallback files halt
      ⟨(done.sink, insertions (halt.taken files) fallback), done.reports, done.summary⟩ := by
  rw [run_eq _ _ _ _ _ unbroken, run_eq _ _ _ _ _ unbroken]
  simp only [carryFiles_logged, carryAll_logged, insertions, earlyRecords, latePosts,
    List.nil_append, Effect.records_ofAssigned]
  rfl

end Target

/-- Insertions that an outcome accounts for. -/
def Outcome.tally (o : Outcome) : Nat :=
  o.written + o.present + o.errors.countP FileError.tellsOfWrite

theorem tally_count (o : Outcome) (answer : Except WriteFault Bool) :
    (o.count answer).tally = o.tally + 1 := by
  rcases answer with fault | _ | _
  · have told : FileError.tellsOfWrite (.write fault) = true := (tellsOfWrite_iff _).mpr ⟨fault, rfl⟩
    simp [Outcome.count, Outcome.fail, Outcome.tally, told]
    omega
  · simp [Outcome.count, Outcome.tally]
    omega
  · simp [Outcome.count, Outcome.tally]
    omega

namespace Resolution

/-- What goes wrong before any write tells of no write. -/
def Silent (effects : List Effect) : Prop :=
  ∀ error, .fail error ∈ effects → error.tellsOfWrite = false

theorem silent_ofAssigned (assigned : List Assignment) : Silent (Effect.ofAssigned assigned) := by
  simp [Silent, Effect.ofAssigned]

theorem Silent.append {first second : List Effect} (early : Silent first) (late : Silent second) :
    Silent (first ++ second) := by
  intro error member
  exact (List.mem_append.mp member).elim (early error) (late error)

theorem silent_route (r : Resolution) (item : Item) : Silent (r.route item).2 := by
  cases item with
  | malformed error => simp [Silent, route, ← Bool.not_eq_true, tellsOfWrite_iff]
  | record record =>
    cases record with
    | post post => cases pending : post.isPending <;> simp [Silent, route, pending]
    | topic topic =>
      cases done : r.register topic.lastPost topic.id <;>
        simp [Silent, route, done, Effect.ofAssigned, ← Bool.not_eq_true, tellsOfWrite_iff]
    | _ => simp [Silent, route]

theorem silent_routeItems (r : Resolution) (items : List Item) : Silent (r.routeItems items).2 := by
  induction items generalizing r with
  | nil => simp [Silent, routeItems]
  | cons item rest ih => exact (silent_route r item).append (ih _)

theorem silent_routePage (r : Resolution) (posts : List Post) : Silent (r.routePage posts).2 := by
  unfold routePage
  split
  · exact silent_ofAssigned _
  · split
    · exact silent_ofAssigned _
    · simp [Silent]
    · simp [Silent, ← Bool.not_eq_true, tellsOfWrite_iff]

theorem silent_routeContents (r : Resolution) (contents : Contents) :
    Silent (r.routeContents contents).2 := by
  cases contents with
  | items items =>
    simp only [routeContents]
    split
    · exact silent_routeItems r items
    · exact (silent_routeItems r items).append (silent_routePage _ _)
  | _ => simp [Silent, routeContents, ← Bool.not_eq_true, tellsOfWrite_iff]

end Resolution

namespace Target

variable {σ : Type} (target : Target σ)

theorem total_append (count : Outcome → Nat) (first second : List Outcome) :
    total count (first ++ second) = total count first + total count second := by
  induction first with
  | nil => simp [total]
  | cons o rest ih => simp [total, ih, Nat.add_assoc]

/-- Each write is counted once, whatever the target answers. -/
theorem carryAll_tally (sink : σ) (o : Outcome) {effects : List Effect}
    (silent : Resolution.Silent effects) :
    (target.carryAll sink o effects).2.tally = o.tally + (Effect.records effects).length := by
  induction effects generalizing sink o with
  | nil => rfl
  | cons effect rest ih =>
    have restSilent : Resolution.Silent rest :=
      fun error member => silent error (List.mem_cons_of_mem _ member)
    rw [carryAll, ih _ _ restSilent]
    cases effect with
    | write record =>
      simp only [carry, tally_count, Effect.records, Effect.record?, List.filterMap_cons,
        List.length_cons]
      omega
    | fail error =>
      have quiet := silent error List.mem_cons_self
      have same : (o.fail error).tally = o.tally := by
        simp [Outcome.tally, Outcome.fail, quiet]
      exact congrArg (· + _) same
    | wait posts => rfl

/-- What files account for: written, present and failed records together. -/
def filesTally (ends : List FileEnd) : Nat :=
  total Outcome.written (outcomes ends) + total Outcome.present (outcomes ends) +
    (ends.flatMap FileEnd.errors).countP (·.2.tellsOfWrite)

theorem filesTally_ok (o : Outcome) (ends : List FileEnd) :
    filesTally (.ok o :: ends) = o.tally + filesTally ends := by
  have told : (o.errors.map ((o.name, ·))).countP (·.2.tellsOfWrite) =
      o.errors.countP FileError.tellsOfWrite := List.countP_map
  simp only [filesTally, outcomes, List.filterMap_cons, Except.toOption, total, List.flatMap_cons,
    List.countP_append, FileEnd.errors, Outcome.tally, told]
  omega

theorem filesTally_error (message : String) (ends : List FileEnd) :
    filesTally (.error message :: ends) = filesTally ends := by
  simp [filesTally, outcomes, List.filterMap_cons, Except.toOption, FileEnd.errors,
    FileError.tellsOfWrite]

theorem carryFiles_tally (sink : σ) (r : Resolution) (files : List SourceFile) :
    filesTally (target.carryFiles sink files (r.routeAll files).2).2 =
      ((r.routeAll files).2.flatMap Effect.records).length := by
  induction files generalizing sink r with
  | nil => rfl
  | cons file rest ih =>
    simp only [Resolution.routeAll, carryFiles, List.flatMap_cons, List.length_append]
    cases kind : file.contents with
    | broken message =>
      simp only [endOf, filesTally_error, Resolution.routeContents, carryAll, ih]
      simp
    | _ =>
      simp only [endOf, filesTally_ok, ih]
      rw [carryAll_tally target _ _ (Resolution.silent_routeContents r _)]
      simp [Outcome.tally]

/-- The summary of a run accounts for every insertion. -/
theorem summarize_tally (files : Nat) (ends : List FileEnd) (last : Outcome) (flushed : Nat)
    (stopped : Bool) :
    let summary := summarize files ends last flushed stopped
    summary.written + summary.present + summary.errors.countP (·.2.tellsOfWrite) =
      filesTally ends + last.tally := by
  have told : (last.errors.map ((last.name, ·))).countP (·.2.tellsOfWrite) =
      last.errors.countP FileError.tellsOfWrite := List.countP_map
  simp only [summarize, filesTally, Outcome.tally, total_append, total, List.countP_append, told]
  change total Outcome.written _ + _ + (total Outcome.present _ + _) + _ = _
  omega

/-- A run over all files accounts for all its insertions. -/
theorem account_tally (sink : σ) (fallback : Int) (files : List SourceFile) :
    let summary := target.account sink fallback files
    summary.written + summary.present + summary.errors.countP (·.2.tellsOfWrite) =
      (insertions files fallback).length := by
  have early := target.carryFiles_tally sink {} files
  simp only [account, summarize_tally]
  rw [early, target.carryAll_tally _ _ (Resolution.silent_ofAssigned _)]
  simp [insertions, earlyRecords, latePosts, Outcome.tally]

end Target
end BoardMigration
