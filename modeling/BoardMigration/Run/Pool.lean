import BoardMigration.Run

/-! The pool that the files of a run go through. One thread submits files, one after another: it looks
whether a stop was asked for, and waits for a free slot. Another works on the files that are submitted. No
more files are submitted once a stop was seen or an exception came, but those that are get worked on; only
then are the posts that still wait written, unless there was an exception, and the target is closed. -/
namespace BoardMigration

/-- Where the submitting thread stands: about to look for a stop, at the queue for a free slot, or waiting for
the worker, after the last file or after an exception. -/
inductive Stage where
  | looking | queueing | draining | broken
  | finished (summary : Option Summary)
  deriving DecidableEq, Repr

structure Pool (σ : Type) where
  progress : Progress σ
  untaken : List SourceFile
  queued : List SourceFile := []
  ends : List Target.FileEnd := []
  stopped : Bool := false
  stage : Stage := .looking

/-- What can happen next. Stops are requested and exceptions come at any time; a thread that waited in vain for
a slot looks again. -/
inductive Move where
  | request | look | submit | retry | interrupt | work | conclude
  deriving DecidableEq, Repr

namespace Pool

variable {σ : Type}

def start (sink : σ) (files : List SourceFile) : Pool σ := { progress := { sink }, untaken := files }

def isOver (p : Pool σ) : Bool :=
  match p.stage with
  | .finished _ => true
  | _ => false

def completed? (p : Pool σ) : Option (Completed σ) :=
  match p.stage with
  | .finished summary => some ⟨p.progress.sink, (Target.outcomes p.ends).map Outcome.report, summary⟩
  | _ => none

end Pool

namespace Target

variable {σ : Type} (target : Target σ)

def work (p : Pool σ) (file : SourceFile) (rest : List SourceFile) : Pool σ :=
  let (progress, done) := target.process p.progress file
  { p with progress, queued := rest, ends := p.ends ++ [done] }

def closed (p : Progress σ) : Progress σ := { p with sink := target.close p.sink }

def conclude (fallback : Int) (p : Pool σ) : Pool σ :=
  let (progress, last, flushed) := target.finish p.progress fallback
  let summary := summarize (p.ends.length + p.untaken.length) p.ends last flushed p.stopped
  { p with progress := target.closed progress, stage := .finished (some summary) }

/-- The pool after a move; `none` if the move cannot be made. At most `slots` files are under way. -/
def move? (fallback : Int) (slots : Nat) (p : Pool σ) : Move → Option (Pool σ)
  | .request => if p.isOver then none else some { p with stopped := true }
  | .look =>
    if p.stage = .looking then
      some { p with stage := if p.untaken.isEmpty || p.stopped then .draining else .queueing }
    else none
  | .submit =>
    match p.stage, p.untaken with
    | .queueing, file :: rest =>
      if p.queued.length < slots then
        some { p with untaken := rest, queued := p.queued ++ [file], stage := .looking }
      else none
    | _, _ => none
  | .retry => if p.stage = .queueing then some { p with stage := .looking } else none
  | .interrupt =>
    match p.stage with
    | .broken | .finished _ => none
    | _ => some { p with stage := .broken }
  | .work =>
    match p.queued with
    | [] => none
    | file :: rest => some (target.work p file rest)
  | .conclude =>
    match p.stage, p.queued with
    | .draining, [] => some (target.conclude fallback p)
    | .broken, [] => some { p with progress := target.closed p.progress, stage := .finished none }
    | _, _ => none

def moves? (fallback : Int) (slots : Nat) (p : Pool σ) : List Move → Option (Pool σ)
  | [] => some p
  | move :: rest => (target.move? fallback slots p move).bind fun q => moves? fallback slots q rest

end Target
end BoardMigration
