import BoardMigration.Proofs.Run.Watched
import BoardMigration.Run.Pool

/-! What comes of a pool, whichever way its moves fall. Files are worked on in the order they are submitted
in, so a pool under way has gone through some of the first files, and one that is over through all that were
submitted. A stop settles only how many these are. -/
namespace BoardMigration

/-- The same end of a run, told of so many files and as stopped or not. -/
def Completed.retold {σ : Type} (done : Completed σ) (files : Nat) (stopped : Bool) : Completed σ :=
  { done with summary := done.summary.map ({ · with files, stopped }) }

namespace Pool

variable {σ : Type} {p : Pool σ}

/-- No exception came. -/
def Unbroken (p : Pool σ) : Prop := p.stage ≠ .broken ∧ p.stage ≠ .finished none

/-- A stop was asked for, and no slot is waited for. -/
structure Halting (p : Pool σ) (rest : List SourceFile) : Prop where
  stopped : p.stopped = true
  stage : p.stage ≠ .queueing
  untaken : p.untaken = rest

/-- Nobody asked for a stop, so the files are not left before the last. -/
structure Free (p : Pool σ) : Prop where
  stopped : p.stopped = false
  untaken : p.stage = .looking ∨ p.stage = .queueing ∨ p.untaken = []

theorem free_start (sink : σ) (files : List SourceFile) : (start sink files).Free := ⟨rfl, .inl rfl⟩

theorem isOver_iff : p.isOver = true ↔ ∃ done, p.completed? = some done := by
  cases stage : p.stage <;> simp [isOver, completed?, stage]

theorem completed?_under (under : p.isOver = false) : p.completed? = none := by
  cases stage : p.stage <;> simp_all [isOver, completed?]

/-- A pool that is over and was not stopped has taken all its files. -/
theorem Free.untaken_eq {done : Completed σ} (free : p.Free) (ended : p.completed? = some done) :
    p.untaken = [] := by
  rcases free.untaken with stage | stage | untaken
  · simp [completed?, stage] at ended
  · simp [completed?, stage] at ended
  · exact untaken

end Pool

namespace Target

variable {σ : Type} (target : Target σ) (fallback : Int) (slots : Nat)

/-- When a move can be made, and what comes of it. -/
inductive Moved : Pool σ → Move → Pool σ → Prop where
  | request {p : Pool σ} (under : p.isOver = false) : Moved p .request { p with stopped := true }
  | drain {p : Pool σ} (stage : p.stage = .looking) (last : p.untaken = [] ∨ p.stopped = true) :
      Moved p .look { p with stage := .draining }
  | queue {p : Pool σ} (stage : p.stage = .looking) (more : p.untaken ≠ []) (free : p.stopped = false) :
      Moved p .look { p with stage := .queueing }
  | submit {p : Pool σ} {file : SourceFile} {rest : List SourceFile} (stage : p.stage = .queueing)
      (next : p.untaken = file :: rest) (room : p.queued.length < slots) :
      Moved p .submit { p with untaken := rest, queued := p.queued ++ [file], stage := .looking }
  | retry {p : Pool σ} (stage : p.stage = .queueing) : Moved p .retry { p with stage := .looking }
  | interrupt {p : Pool σ} (under : p.isOver = false) (unbroken : p.stage ≠ .broken) :
      Moved p .interrupt { p with stage := .broken }
  | work {p : Pool σ} {file : SourceFile} {rest : List SourceFile} (next : p.queued = file :: rest) :
      Moved p .work (target.work p file rest)
  | conclude {p : Pool σ} (stage : p.stage = .draining) (idle : p.queued = []) :
      Moved p .conclude (target.conclude fallback p)
  | breakOff {p : Pool σ} (stage : p.stage = .broken) (idle : p.queued = []) :
      Moved p .conclude { p with progress := target.closed p.progress, stage := .finished none }

variable {target fallback slots} {p q : Pool σ} {move : Move}

theorem Moved.of_move? (step : target.move? fallback slots p move = some q) :
    Moved target fallback slots p move q := by
  obtain ⟨progress, untaken, queued, ends, stopped, stage⟩ := p
  cases move with
  | request =>
    simp only [move?, Option.ite_none_left_eq_some, Option.some.injEq] at step
    obtain ⟨under, rfl⟩ := step
    exact .request (by simpa using under)
  | look =>
    simp only [move?, Option.ite_none_right_eq_some, Option.some.injEq] at step
    obtain ⟨rfl, rfl⟩ := step
    cases untaken with
    | nil => exact .drain rfl (.inl rfl)
    | cons file rest =>
      cases stopped with
      | false => exact .queue rfl (by simp) rfl
      | true => exact .drain rfl (.inr rfl)
  | submit =>
    simp only [move?] at step
    split at step
    next =>
      simp only [Option.ite_none_right_eq_some, Option.some.injEq] at step
      obtain ⟨room, rfl⟩ := step
      exact .submit rfl rfl room
    · cases step
  | retry =>
    simp only [move?, Option.ite_none_right_eq_some, Option.some.injEq] at step
    obtain ⟨rfl, rfl⟩ := step
    exact .retry rfl
  | interrupt =>
    cases stage <;> cases step <;> exact .interrupt rfl (by simp)
  | work =>
    cases queued <;> cases step
    exact .work rfl
  | conclude =>
    cases stage <;> cases queued <;> cases step
    · exact .conclude rfl rfl
    · exact .breakOff rfl rfl

theorem Moved.move? (moved : Moved target fallback slots p move q) :
    target.move? fallback slots p move = some q := by
  obtain ⟨progress, untaken, queued, ends, stopped, stage⟩ := p
  cases moved with
  | interrupt under unbroken =>
    cases stage with
    | broken => exact absurd rfl unbroken
    | finished summary => cases under
    | looking | queueing | draining => rfl
  | _ => simp_all [move?]

theorem Moved.asked (stage : p.stage = .looking) :
    Moved target fallback slots p .request { p with stopped := true } :=
  .request (by simp [Pool.isOver, stage])

/-- What every move keeps holds when all moves are made. -/
theorem moves?_keep {P : Pool σ → Prop} {moves : List Move}
    (run : target.moves? fallback slots p moves = some q)
    (keep : ∀ {p q : Pool σ} {move : Move}, move ∈ moves → Moved target fallback slots p move q → P p → P q)
    (here : P p) : P q := by
  induction moves generalizing p with
  | nil =>
    obtain rfl := Option.some.inj run
    exact here
  | cons move rest ih =>
    obtain ⟨next, step, run⟩ := Option.bind_eq_some_iff.mp run
    apply ih run
    · intro p q move member
      exact keep (List.mem_cons_of_mem _ member)
    · exact keep List.mem_cons_self (.of_move? step) here

theorem processAll_concat (p : Progress σ) (files : List SourceFile) (file : SourceFile) :
    target.processAll p (files ++ [file]) =
      ((target.process (target.processAll p files).1 file).1,
        (target.processAll p files).2 ++ [(target.process (target.processAll p files).1 file).2]) := by
  induction files generalizing p with
  | nil => rfl
  | cons first rest ih => simp only [List.cons_append, processAll, ih]

theorem length_processAll (target : Target σ) (p : Progress σ) (files : List SourceFile) :
    (target.processAll p files).2.length = files.length := by
  induction files generalizing p with
  | nil => rfl
  | cons file rest ih => simp only [processAll, List.length_cons, ih]

variable (target) in
/-- How a run ends that breaks off once the files are done. -/
def brokenOff (sink : σ) (files : List SourceFile) : Completed σ :=
  let (p, ends) := target.processAll { sink } files
  ⟨target.close p.sink, (outcomes ends).map Outcome.report, none⟩

variable (target fallback) in
/-- A pool over files has gone through some of the first, and once it is over through all that it took. -/
inductive Reached (sink : σ) (files : List SourceFile) : Pool σ → Prop where
  | under {p : Pool σ} (done : List SourceFile) (under : p.isOver = false)
      (places : files = done ++ p.queued ++ p.untaken)
      (worked : target.processAll { sink } done = (p.progress, p.ends)) : Reached sink files p
  | concluded {p : Pool σ} (taken : List SourceFile) (idle : p.queued = [])
      (places : files = taken ++ p.untaken)
      (left : p.completed? =
        some ((target.run sink fallback taken .never).retold files.length p.stopped)) : Reached sink files p
  | brokenOff {p : Pool σ} (taken : List SourceFile) (idle : p.queued = [])
      (places : files = taken ++ p.untaken) (stage : p.stage = .finished none)
      (left : p.completed? = some (target.brokenOff sink taken)) : Reached sink files p

theorem reached_start (sink : σ) (files : List SourceFile) :
    Reached target fallback sink files (.start sink files) := .under [] rfl rfl rfl

/-- Nothing moves in a pool that is over. -/
theorem Moved.under (moved : Moved target fallback slots p move q) (idle : p.queued = []) :
    p.isOver = false := by
  cases moved with
  | request under => exact under
  | interrupt under => exact under
  | work next => simp [idle] at next
  | _ => simp_all [Pool.isOver]

theorem Reached.moved {sink : σ} {files : List SourceFile} (here : Reached target fallback sink files p)
    (moved : Moved target fallback slots p move q) : Reached target fallback sink files q := by
  cases here with
  | under done under places worked =>
    cases moved with
    | request => exact .under done under places worked
    | drain | queue | retry | interrupt => exact .under done rfl places worked
    | submit stage next room => exact .under done rfl (by simp [places, next]) worked
    | @work file rest next =>
      refine .under (done ++ [file]) under ?_ ?_
      · simpa [next, work] using places
      · simp only [processAll_concat, worked]
        rfl
    | conclude stage idle =>
      rw [idle, List.append_nil] at places
      refine .concluded done idle places ?_
      have count : p.ends.length + p.untaken.length = files.length := by
        have same := length_processAll target { sink } done
        rw [worked] at same
        rw [same, places, List.length_append]
      simp [Pool.completed?, Target.conclude, Completed.retold, run, Halt.taken, Halt.ending, worked, closed,
        summarize, count]
    | breakOff stage idle =>
      rw [idle, List.append_nil] at places
      refine .brokenOff done idle places rfl ?_
      simp [Pool.completed?, Target.brokenOff, worked, closed]
  | concluded taken idle places left | brokenOff taken idle places stage left =>
    rw [Pool.completed?_under (moved.under idle)] at left
    cases left

theorem reached {sink : σ} {files : List SourceFile} {moves : List Move}
    (run : target.moves? fallback slots (.start sink files) moves = some p) :
    Reached target fallback sink files p :=
  moves?_keep run (fun _ moved here => here.moved moved) (reached_start sink files)

theorem Moved.unbroken (moved : Moved target fallback slots p move q) (calm : move ≠ .interrupt)
    (here : p.Unbroken) : q.Unbroken := by
  obtain ⟨whole, kept⟩ := here
  cases moved with
  | interrupt => exact absurd rfl calm
  | breakOff stage => exact absurd stage whole
  | request | work => exact ⟨whole, kept⟩
  | _ => exact ⟨nofun, nofun⟩

theorem Moved.halting {rest : List SourceFile} (moved : Moved target fallback slots p move q)
    (here : p.Halting rest) : q.Halting rest := by
  obtain ⟨stopped, stage, untaken⟩ := here
  cases moved with
  | queue _ _ free => rw [stopped] at free; cases free
  | submit queueing => exact absurd queueing stage
  | request => exact ⟨rfl, stage, untaken⟩
  | work => exact ⟨stopped, stage, untaken⟩
  | _ => exact ⟨stopped, nofun, untaken⟩

theorem Moved.free (moved : Moved target fallback slots p move q) (unasked : move ≠ .request)
    (calm : move ≠ .interrupt) (here : p.Free) : q.Free := by
  obtain ⟨stopped, untaken⟩ := here
  cases moved with
  | request => exact absurd rfl unasked
  | interrupt => exact absurd rfl calm
  | drain stage last => exact ⟨stopped, .inr (.inr (last.resolve_right (by simp [stopped])))⟩
  | queue => exact ⟨stopped, .inr (.inl rfl)⟩
  | submit | retry => exact ⟨stopped, .inl rfl⟩
  | work => exact ⟨stopped, untaken⟩
  | conclude stage | breakOff stage =>
    simp only [stage, reduceCtorEq, false_or] at untaken
    exact ⟨stopped, .inr (.inr untaken)⟩

/-- Without an exception, a run ends like one over the files it took. -/
theorem Reached.ended {sink : σ} {files : List SourceFile} {done : Completed σ}
    (here : Reached target fallback sink files p) (unbroken : p.Unbroken)
    (ended : p.completed? = some done) :
    ∃ taken, files = taken ++ p.untaken ∧
      done = (target.run sink fallback taken .never).retold files.length p.stopped := by
  cases here with
  | under taken under =>
    rw [Pool.completed?_under under] at ended
    cases ended
  | concluded taken idle places left => exact ⟨taken, places, Option.some.inj (ended.symm.trans left)⟩
  | brokenOff taken idle places stage => exact absurd stage unbroken.2

theorem moves?_append (p : Pool σ) (first second : List Move) :
    target.moves? fallback slots p (first ++ second) =
      (target.moves? fallback slots p first).bind fun q => target.moves? fallback slots q second := by
  induction first generalizing p with
  | nil => rfl
  | cons move rest ih => simp only [List.cons_append, moves?, ih, Option.bind_assoc]

variable (target fallback slots) in
/-- Moves without a stop or an exception. -/
def Leads (p q : Pool σ) : Prop :=
  ∃ moves, Move.request ∉ moves ∧ Move.interrupt ∉ moves ∧ target.moves? fallback slots p moves = some q

namespace Leads

theorem refl (p : Pool σ) : Leads target fallback slots p p := ⟨[], by simp, by simp, rfl⟩

theorem trans {r : Pool σ} (first : Leads target fallback slots p q)
    (second : Leads target fallback slots q r) : Leads target fallback slots p r := by
  obtain ⟨moves, unasked, calm, run⟩ := first
  obtain ⟨others, unasked', calm', run'⟩ := second
  refine ⟨moves ++ others, ?_, ?_, ?_⟩
  · simp [unasked, unasked']
  · simp [calm, calm']
  · rw [moves?_append, run, Option.bind_some, run']

theorem of_moved (moved : Moved target fallback slots p move q) (unasked : move ≠ .request)
    (calm : move ≠ .interrupt) : Leads target fallback slots p q :=
  ⟨[move], by simpa using unasked.symm, by simpa using calm.symm, by simp [moves?, moved.move?]⟩

variable (target fallback slots)

/-- The worker can work off what is submitted. -/
theorem idle (p : Pool σ) : ∃ q, Leads target fallback slots p q ∧ q.queued = [] ∧ q.stage = p.stage ∧
    q.untaken = p.untaken ∧ q.stopped = p.stopped := by
  generalize queue : p.queued = queued
  induction queued generalizing p with
  | nil => exact ⟨p, refl p, queue, rfl, rfl, rfl⟩
  | cons file rest ih =>
    obtain ⟨q, leads, worked⟩ := ih (target.work p file rest) rfl
    exact ⟨q, trans (of_moved (.work queue) nofun nofun) leads, worked⟩

variable {slots}

/-- As long as nobody asks for a stop, the next files can be taken. -/
theorem take (room : 0 < slots) (n : Nat) (p : Pool σ) (stage : p.stage = .looking)
    (free : p.stopped = false) : ∃ q, Leads target fallback slots p q ∧ q.stage = .looking ∧
      q.untaken = p.untaken.drop n ∧ q.stopped = false := by
  induction n generalizing p with
  | zero => exact ⟨p, refl p, stage, rfl, free⟩
  | succ n ih =>
    cases left : p.untaken with
    | nil => exact ⟨p, refl p, stage, by simp [left], free⟩
    | cons file rest =>
      obtain ⟨q, worked, queued, looks, untaken, unasked⟩ := idle target fallback slots p
      rw [stage] at looks
      rw [left] at untaken
      rw [free] at unasked
      have look : Leads target fallback slots q { q with stage := .queueing } :=
        of_moved (.queue looks (by simp [untaken]) unasked) nofun nofun
      have submit : Leads target fallback slots { q with stage := .queueing }
          { q with untaken := rest, queued := q.queued ++ [file], stage := .looking } :=
        of_moved (.submit rfl untaken (by simpa [queued] using room)) nofun nofun
      obtain ⟨last, others, ends⟩ :=
        ih { q with untaken := rest, queued := q.queued ++ [file], stage := .looking } rfl unasked
      exact ⟨last, worked.trans (look.trans (submit.trans others)), ends⟩

end Leads

variable (target fallback slots) in
/-- Left to itself, a pool can come to its end. -/
def CanEnd (p : Pool σ) : Prop := ∃ q, Leads target fallback slots p q ∧ q.isOver = true

namespace CanEnd

theorem of_leads (leads : Leads target fallback slots p q) (ends : CanEnd target fallback slots q) :
    CanEnd target fallback slots p := by
  obtain ⟨last, others, finished⟩ := ends
  exact ⟨last, leads.trans others, finished⟩

theorem of_moved (moved : Moved target fallback slots p move q) (unasked : move ≠ .request)
    (calm : move ≠ .interrupt) (ends : CanEnd target fallback slots q) : CanEnd target fallback slots p :=
  of_leads (.of_moved moved unasked calm) ends

/-- Once it takes no more files, the worker works off those it took. -/
theorem of_draining (stage : p.stage = .draining) : CanEnd target fallback slots p := by
  obtain ⟨q, worked, queued, drains, -⟩ := Leads.idle target fallback slots p
  exact of_leads worked
    ⟨_, .of_moved (.conclude (drains.trans stage) queued) nofun nofun, rfl⟩

theorem of_left (stage : p.stage = .looking) (last : p.untaken = [] ∨ p.stopped = true) :
    CanEnd target fallback slots p := of_moved (.drain stage last) nofun nofun (of_draining rfl)

theorem of_looking (room : 0 < slots) (stage : p.stage = .looking) : CanEnd target fallback slots p := by
  cases stopped : p.stopped with
  | true => exact of_left stage (.inr stopped)
  | false =>
    obtain ⟨q, taken, looks, untaken, -⟩ :=
      Leads.take target fallback room p.untaken.length p stage stopped
    exact of_leads taken (of_left looks (.inl (by simpa using untaken)))

end CanEnd

variable (target fallback) in
/-- Wherever a pool stands, it can come to its end. -/
theorem canEnd (room : 0 < slots) (p : Pool σ) : CanEnd target fallback slots p := by
  cases stage : p.stage with
  | looking => exact .of_looking room stage
  | queueing => exact .of_moved (.retry stage) nofun nofun (.of_looking room rfl)
  | draining => exact .of_draining stage
  | broken =>
    obtain ⟨q, worked, queued, breaks, -⟩ := Leads.idle target fallback slots p
    exact .of_leads worked ⟨_, .of_moved (.breakOff (breaks.trans stage) queued) nofun nofun, rfl⟩
  | finished summary => exact ⟨p, .refl p, by simp [Pool.isOver, stage]⟩

variable (target fallback slots) in
/-- A run ends so that no stop and no exception disturbs. -/
def Undisturbed (sink : σ) (files : List SourceFile) (done : Completed σ) : Prop :=
  ∃ p, Leads target fallback slots (.start sink files) p ∧ p.completed? = some done

variable (target fallback slots) in
/-- A run ends so that a stop is asked for just before file `k` is taken, counted from 0. -/
def StoppedBefore (k : Nat) (sink : σ) (files : List SourceFile) (done : Completed σ) : Prop :=
  ∃ before mid after, target.moves? fallback slots (.start sink files) before = some mid ∧
    mid.stage = .looking ∧ mid.untaken = files.drop k ∧ Move.interrupt ∉ after ∧
    (target.moves? fallback slots mid (.request :: after)).bind Pool.completed? = some done

theorem Leads.free (leads : Leads target fallback slots p q) (here : p.Free) : q.Free := by
  obtain ⟨moves, unasked, calm, run⟩ := leads
  apply moves?_keep run _ here
  intro p q move member moved
  exact moved.free (ne_of_mem_of_not_mem member unasked) (ne_of_mem_of_not_mem member calm)

theorem moves?_unbroken {moves : List Move} (run : target.moves? fallback slots p moves = some q)
    (calm : Move.interrupt ∉ moves) (here : p.Unbroken) : q.Unbroken := by
  apply moves?_keep run _ here
  intro p q move member moved
  exact moved.unbroken (ne_of_mem_of_not_mem member calm)

theorem retold_whole (sink : σ) (files : List SourceFile) :
    (target.run sink fallback files .never).retold files.length false =
      target.run sink fallback files .never := rfl

theorem retold_stopped (sink : σ) (files : List SourceFile) {k : Nat} (within : k < files.length) :
    (target.run sink fallback (files.take k) .never).retold files.length true =
      target.run sink fallback files (.stopBefore k) := by
  simp [Completed.retold, run, Halt.taken, Halt.ending, within, summarize]

theorem Undisturbed.eq {sink : σ} {files : List SourceFile} {done : Completed σ}
    (alone : Undisturbed target fallback slots sink files done) :
    done = target.run sink fallback files .never := by
  obtain ⟨p, leads, ended⟩ := alone
  have free := leads.free (Pool.free_start sink files)
  obtain ⟨moves, -, calm, run⟩ := leads
  have unbroken : p.Unbroken := moves?_unbroken run calm ⟨nofun, nofun⟩
  obtain ⟨taken, places, rfl⟩ := (reached run).ended unbroken ended
  rw [free.untaken_eq ended, List.append_nil] at places
  rw [← places, free.stopped, retold_whole]

theorem StoppedBefore.eq {k : Nat} {sink : σ} {files : List SourceFile} {done : Completed σ}
    (within : k < files.length) (stops : StoppedBefore target fallback slots k sink files done) :
    done = target.run sink fallback files (.stopBefore k) := by
  obtain ⟨before, mid, after, begins, looks, next, calm, ends⟩ := stops
  obtain ⟨p, run, ended⟩ := Option.bind_eq_some_iff.mp ends
  have rest : target.moves? fallback slots { mid with stopped := true } after = some p := by
    simpa [moves?, (Moved.asked looks).move?] using run
  have halting : p.Halting (files.drop k) :=
    moves?_keep rest (fun _ moved => moved.halting) ⟨rfl, by simp [looks], next⟩
  have unbroken : p.Unbroken := moves?_unbroken rest calm ⟨by simp [looks], by simp [looks]⟩
  have whole : target.moves? fallback slots (.start sink files) (before ++ .request :: after) = some p := by
    rw [moves?_append, begins, Option.bind_some, run]
  obtain ⟨taken, places, rfl⟩ := (reached whole).ended unbroken ended
  rw [halting.untaken] at places
  have first : files.take k = taken := List.append_cancel_right ((List.take_append_drop k files).trans places)
  rw [← retold_stopped sink files within, halting.stopped, first]

/-- Left to itself, a run ends, and in one way. -/
theorem undisturbed_iff (room : 0 < slots) (sink : σ) (files : List SourceFile) (done : Completed σ) :
    Undisturbed target fallback slots sink files done ↔ done = target.run sink fallback files .never := by
  constructor
  · exact Undisturbed.eq
  · rintro rfl
    obtain ⟨p, leads, finished⟩ := canEnd target fallback room (.start sink files)
    obtain ⟨done, ended⟩ := Pool.isOver_iff.mp finished
    have alone : Undisturbed target fallback slots sink files done := ⟨p, leads, ended⟩
    exact alone.eq ▸ alone

/-- A stop can come before any file, and a run then ends in one way. -/
theorem stoppedBefore_iff (room : 0 < slots) (sink : σ) (files : List SourceFile) {k : Nat}
    (within : k < files.length) (done : Completed σ) :
    StoppedBefore target fallback slots k sink files done ↔
      done = target.run sink fallback files (.stopBefore k) := by
  constructor
  · exact StoppedBefore.eq within
  · rintro rfl
    obtain ⟨mid, ⟨before, -, -, begins⟩, looks, next, -⟩ :=
      Leads.take target fallback room k (.start sink files) rfl rfl
    obtain ⟨p, ⟨after, -, calm, rest⟩, finished⟩ :=
      canEnd target fallback room { mid with stopped := true }
    obtain ⟨done, ended⟩ := Pool.isOver_iff.mp finished
    have stops : StoppedBefore target fallback slots k sink files done := by
      refine ⟨before, mid, after, begins, looks, next, calm, ?_⟩
      rw [moves?, (Moved.asked looks).move?, Option.bind_some, rest, Option.bind_some, ended]
    exact stops.eq within ▸ stops

/-- However a run ends, its target is closed once, and last. -/
theorem Reached.closes {sink : σ} {files : List SourceFile} {p : Pool (σ × List Ask)}
    {done : Completed (σ × List Ask)} (here : Reached target.watched fallback (sink, []) files p)
    (ended : p.completed? = some done) : ∃ asks, done.sink.2 = asks ++ [.close] ∧ Ask.close ∉ asks := by
  cases here with
  | under taken under =>
    rw [Pool.completed?_under under] at ended
    cases ended
  | concluded taken idle places left =>
    obtain rfl := Option.some.inj (ended.symm.trans left)
    rw [run_watched target sink fallback taken .never (by simp [Halt.ending])]
    refine ⟨_, rfl, ?_⟩
    rw [List.mem_append, not_or]
    exact ⟨close_notMem_asked target _ taken, close_notMem_asks target _ _⟩
  | brokenOff taken idle places stage left =>
    obtain rfl := Option.some.inj (ended.symm.trans left)
    refine ⟨(target.asked { sink } taken).flatten, ?_, close_notMem_asked target _ taken⟩
    simp only [Target.brokenOff, processAll_watched]
    rfl

/-- A run that is stopped before file `k` ends in one way, like an undisturbed run over the files before it:
it asks the same of its target and tells the same, but for the number of files and that it was stopped. Every
run can be brought to its end, whatever it came through, and then its target was closed once, after all
insertions. -/
theorem stopped_alike (target : Target σ) (sink : σ) (fallback : Int) (files : List SourceFile) {slots : Nat}
    (room : 0 < slots) :
    (∀ k < files.length,
      let stopped := target.watched.run (sink, []) fallback files (.stopBefore k)
      let whole := target.watched.run (sink, []) fallback (files.take k) .never
      (∀ done, StoppedBefore target.watched fallback slots k (sink, []) files done ↔ done = stopped) ∧
      (∀ done, Undisturbed target.watched fallback slots (sink, []) (files.take k) done ↔ done = whole) ∧
      stopped.sink = whole.sink ∧ stopped.reports = whole.reports ∧
      ∃ summary, whole.summary = some summary ∧
        stopped.summary = some { summary with files := files.length, stopped := true }) ∧
    ∀ moves p, target.watched.moves? fallback slots (.start (sink, []) files) moves = some p →
      CanEnd target.watched fallback slots p ∧
      ∀ done, p.completed? = some done → ∃ asks, done.sink.2 = asks ++ [.close] ∧ Ask.close ∉ asks := by
  constructor
  · intro k within stopped whole
    have alike : stopped = whole.retold files.length true := (retold_stopped (sink, []) files within).symm
    refine ⟨stoppedBefore_iff room _ files within, undisturbed_iff room _ _, ?_⟩
    rw [alike]
    exact ⟨rfl, rfl, _, rfl, rfl⟩
  · intro moves p run
    exact ⟨canEnd target.watched fallback room p, fun done ended => (reached run).closes ended⟩

/-- A page waits for the last file and another for its own, and every third write fails. With one slot, the
run is stopped before its third file, and another broken off while it waits to take its second. -/
theorem stopped_alike_third :
    let post (n : Int) : Item := .record (.post { id := n, poster := "Bob" })
    let topic (n last : Int) : Item := .record (.topic { id := n, subject := "News", lastPost := last })
    let files : List SourceFile := [⟨"a", .items [post 1, post 2]⟩, ⟨"b", .items [post 5, topic 7 5]⟩,
      ⟨"c", .broken "gone"⟩, ⟨"d", .items [topic 8 2]⟩]
    let target : Target Nat := {
      insert := fun n _ => (if n % 3 = 2 then .error (.refused "full") else .ok (n % 2 = 0), n + 1)
      close := id }
    let stopped := target.watched.run (0, []) 9 files (.stopBefore 2)
    let whole := target.watched.run (0, []) 9 (files.take 2) .never
    (0 < 1 ∧ 2 < files.length) ∧
    StoppedBefore target.watched 9 1 2 (0, []) files stopped ∧
    Undisturbed target.watched 9 1 (0, []) (files.take 2) whole ∧
    stopped.sink = whole.sink ∧ stopped.reports = whole.reports ∧
    (∃ summary, whole.summary = some summary ∧
      stopped.summary = some { summary with files := 4, stopped := true }) ∧
    ∃ p done asks,
      target.watched.moves? 9 1 (.start (0, []) files) [.look, .submit, .look, .interrupt, .work, .conclude] =
        some p ∧
      p.completed? = some done ∧ done.sink.2 = asks ++ [.close] ∧ Ask.close ∉ asks := by
  intro post topic files target stopped whole
  have within : 2 < files.length := by decide
  obtain ⟨alike, closes⟩ := stopped_alike target 0 9 files (show 0 < 1 by decide)
  obtain ⟨stops, alone, sinks, reports, summaries⟩ := alike 2 within
  obtain ⟨asks, closed, once⟩ :=
    (closes [.look, .submit, .look, .interrupt, .work, .conclude] _ rfl).2 _ rfl
  exact ⟨⟨by decide, within⟩, (stops _).mpr rfl, (alone _).mpr rfl, sinks, reports, summaries,
    _, _, asks, rfl, rfl, closed, once⟩

end Target
end BoardMigration
