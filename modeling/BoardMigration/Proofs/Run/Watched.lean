import BoardMigration.Proofs.Run.Simulation

/-! What a run asks of its target, and what it is answered. A target that keeps both in a log is run as it
would be without, so the log shows what a run does to any target: the insertions of each file, file by
file, those of the end, and then the closing. -/
namespace BoardMigration

/-- What a target is asked. -/
inductive Ask where
  | insert (record : Record) (answer : Except WriteFault Bool)
  | close

namespace Ask

def record? : Ask → Option Record
  | insert record _ => some record
  | close => none

/-- The fault by which an insertion failed. -/
def fault? : Ask → Option WriteFault
  | insert _ (.error fault) => some fault
  | _ => none

end Ask

/-- The writes that failed. -/
def faults (asked : List Ask) : List FileError := (asked.filterMap Ask.fault?).map .write

@[simp] theorem faults_nil : faults [] = [] := rfl

namespace Target

variable {σ : Type} (target : Target σ)

/-- A target that keeps what it is asked, with its answers. -/
def watched : Target (σ × List Ask) where
  insert s record :=
    let (answer, sink) := target.insert s.1 record
    (answer, (sink, s.2 ++ [.insert record answer]))
  close s := (target.close s.1, s.2 ++ [.close])

/-- What is asked for each file, as files are gone through. -/
def asked (p : Progress σ) : List SourceFile → List (List Ask)
  | [] => []
  | file :: files =>
    let (q, _) := target.watched.process ⟨p.resolution, (p.sink, [])⟩ file
    q.sink.2 :: asked ⟨q.resolution, q.sink.1⟩ files

/-- What is asked while effects are carried out. -/
def asks (sink : σ) : List Effect → List Ask
  | [] => []
  | .write record :: rest =>
    let (answer, sink) := target.insert sink record
    .insert record answer :: asks sink rest
  | _ :: rest => asks sink rest

def asksEach (sink : σ) : List (List Effect) → List (List Ask)
  | [] => []
  | effects :: rest =>
    target.asks sink effects :: asksEach (target.insertAll sink (Effect.records effects)) rest

theorem carryAll_watched (sink : σ) (log : List Ask) (o : Outcome) (effects : List Effect) :
    target.watched.carryAll (sink, log) o effects =
      (((target.carryAll sink o effects).1, log ++ target.asks sink effects),
        (target.carryAll sink o effects).2) := by
  induction effects generalizing sink log o with
  | nil => simp [carryAll, asks]
  | cons effect rest ih =>
    rw [carryAll]
    cases effect with
    | write record =>
      have step := ih (target.insert sink record).2
        (log ++ [.insert record (target.insert sink record).1]) (o.count (target.insert sink record).1)
      rw [List.append_assoc] at step
      exact step
    | fail error => exact ih sink log (o.fail error)
    | wait posts => exact ih sink log _

theorem carryFiles_watched (sink : σ) (log : List Ask) (r : Resolution) (files : List SourceFile) :
    target.watched.carryFiles (sink, log) files (r.routeAll files).2 =
      (((target.carryFiles sink files (r.routeAll files).2).1,
          log ++ (target.asksEach sink (r.routeAll files).2).flatten),
        (target.carryFiles sink files (r.routeAll files).2).2) := by
  induction files generalizing sink log r with
  | nil => simp [Resolution.routeAll, carryFiles, asksEach]
  | cons file rest ih =>
    simp only [Resolution.routeAll, carryFiles, carryAll_watched, ih, asksEach, List.flatten_cons,
      List.append_assoc, carryAll_sink]

theorem asked_eq (p : Progress σ) (files : List SourceFile) :
    target.asked p files = target.asksEach p.sink (p.resolution.routeAll files).2 := by
  induction files generalizing p with
  | nil => rfl
  | cons file rest ih =>
    simp only [asked, process_eq, settle, carryAll_watched, List.nil_append, ih, Resolution.routeAll,
      asksEach, carryAll_sink]

theorem records_asks (sink : σ) (effects : List Effect) :
    (target.asks sink effects).filterMap Ask.record? = Effect.records effects := by
  induction effects generalizing sink with
  | nil => rfl
  | cons effect rest ih =>
    cases effect with
    | write record =>
      simp only [asks, Effect.records, List.filterMap_cons, Ask.record?, Effect.record?]
      exact congrArg (record :: ·) (ih _)
    | fail error => exact ih sink
    | wait posts => exact ih sink

theorem length_asks (sink : σ) (effects : List Effect) :
    (target.asks sink effects).length = (Effect.records effects).length := by
  induction effects generalizing sink with
  | nil => rfl
  | cons effect rest ih =>
    cases effect with
    | write record => exact congrArg (· + 1) (ih _)
    | fail error => exact ih sink
    | wait posts => exact ih sink

theorem records_asksEach (sink : σ) (effects : List (List Effect)) :
    (target.asksEach sink effects).flatten.filterMap Ask.record? = effects.flatMap Effect.records := by
  induction effects generalizing sink with
  | nil => rfl
  | cons first rest ih =>
    rw [asksEach, List.flatten_cons, List.filterMap_append, records_asks, ih, List.flatMap_cons]

/-- What is asked when all files are done. -/
def lastAsks (sink : σ) (fallback : Int) (files : List SourceFile) : List Ask :=
  target.asks (target.insertAll sink (earlyRecords files))
    (Effect.ofAssigned ((Resolution.routeAll {} files).1.flush fallback).2)

/-- Being watched, a run tells the same and leaves the same sink, and its log is whole. -/
theorem run_watched (sink : σ) (fallback : Int) (files : List SourceFile) (halt : Halt)
    (unbroken : halt.ending files.length ≠ .aborted) :
    target.watched.run (sink, []) fallback files halt =
      let done := target.run sink fallback files halt
      ⟨(done.sink, (target.asked { sink } (halt.taken files)).flatten ++
        target.lastAsks sink fallback (halt.taken files) ++ [.close]), done.reports, done.summary⟩ := by
  rw [run_eq _ _ _ _ _ unbroken, run_eq _ _ _ _ _ unbroken]
  simp only [carryFiles_watched, carryAll_watched, List.nil_append, asked_eq, lastAsks, earlyRecords,
    carryFiles_sink]
  rfl

theorem processAll_watched (sink : σ) (files : List SourceFile) :
    (target.watched.processAll { sink := (sink, []) } files).1.sink =
      ((target.processAll { sink } files).1.sink, (target.asked { sink } files).flatten) := by
  simp only [processAll_eq, carryFiles_watched, List.nil_append, asked_eq]

/-- All that is asked while effects are carried out is to insert. -/
theorem close_notMem_asks (sink : σ) (effects : List Effect) : Ask.close ∉ target.asks sink effects := by
  induction effects generalizing sink with
  | nil => simp [asks]
  | cons effect rest ih =>
    cases effect with
    | write record => simpa [asks] using ih _
    | fail error => exact ih sink
    | wait posts => exact ih sink

theorem close_notMem_asked (p : Progress σ) (files : List SourceFile) :
    Ask.close ∉ (target.asked p files).flatten := by
  rw [asked_eq]
  generalize (p.resolution.routeAll files).2 = effects
  generalize p.sink = sink
  induction effects generalizing sink with
  | nil => simp [asksEach]
  | cons first rest ih =>
    rw [asksEach, List.flatten_cons, List.mem_append]
    rintro (here | later)
    · exact close_notMem_asks target sink first here
    · exact ih _ later

end Target
end BoardMigration
