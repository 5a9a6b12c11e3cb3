import BoardMigration.Run
import Mathlib.Data.List.Perm.Basic

/-! What a run does, apart from where it writes. Which records are written, in which order, and which
errors come between them hangs on the files alone; the target only answers. So a run over any target is
a list of effects that the target carries out. -/
namespace BoardMigration

/-- One thing that happens to a file. -/
inductive Effect where
  | write (record : Record)
  | fail (error : FileError)
  | wait (posts : Nat)
  deriving DecidableEq, Repr

namespace Effect

def record? : Effect → Option Record
  | write record => some record
  | _ => none

def error? : Effect → Option FileError
  | fail error => some error
  | _ => none

/-- Records in the order of their writing. -/
def records (effects : List Effect) : List Record := effects.filterMap record?

def ofAssigned (assigned : List Assignment) : List Effect :=
  assigned.map fun a => .write (.post a.resolved)

@[simp] theorem records_nil : records [] = [] := rfl

@[simp] theorem records_append (first second : List Effect) :
    records (first ++ second) = records first ++ records second := List.filterMap_append

@[simp] theorem records_ofAssigned (assigned : List Assignment) :
    records (ofAssigned assigned) = assigned.map fun a => .post a.resolved := by
  simp [records, ofAssigned, record?, Function.comp_def]

end Effect

namespace Resolution

/-- What an item comes to as it is met. -/
def route (r : Resolution) : Item → Resolution × List Effect
  | .malformed error => (r, [.fail (.malformed error)])
  | .record (.post post) => (r, if post.isPending then [] else [.write (.post post)])
  | .record (.topic topic) =>
    match r.register topic.lastPost topic.id with
    | .error conflict => (r, [.write (.topic topic), .fail (.conflict conflict)])
    | .ok (r, assigned) => (r, .write (.topic topic) :: Effect.ofAssigned assigned)
  | .record record => (r, [.write record])

def routeItems (r : Resolution) : List Item → Resolution × List Effect
  | [] => (r, [])
  | item :: items =>
    let (r, effects) := r.route item
    let (r, rest) := routeItems r items
    (r, effects ++ rest)

/-- What the posts of a page without a topic come to. -/
def routePage (r : Resolution) (posts : List Post) : Resolution × List Effect :=
  match r.topicOf? posts with
  | some topic => (r, Effect.ofAssigned (posts.map (⟨·, topic⟩)))
  | none =>
    match r.file posts with
    | (r, .assigned assigned) => (r, Effect.ofAssigned assigned)
    | (r, .waits) => (r, [.wait posts.length])
    | (r, .refused) => (r, [.fail (.unexpected lateMessage)])

def routeContents (r : Resolution) : Contents → Resolution × List Effect
  | .unreadable => (r, [.fail .unreadable])
  | .garbled => (r, [.fail .garbled])
  | .foreign => (r, [])
  | .broken _ => (r, [])
  | .items items =>
    let (r, effects) := r.routeItems items
    match Target.pendingPosts items with
    | [] => (r, effects)
    | posts =>
      let (r, rest) := r.routePage posts
      (r, effects ++ rest)

/-- The effects of files, file by file. -/
def routeAll (r : Resolution) : List SourceFile → Resolution × List (List Effect)
  | [] => (r, [])
  | file :: files =>
    let (r, effects) := r.routeContents file.contents
    let (r, rest) := routeAll r files
    (r, effects :: rest)

end Resolution

namespace Target

variable {σ : Type} (target : Target σ)

/-- The sink and the outcome after an effect. -/
def carry (sink : σ) (o : Outcome) : Effect → σ × Outcome
  | .write record =>
    let (answer, sink) := target.insert sink record
    (sink, o.count answer)
  | .fail error => (sink, o.fail error)
  | .wait posts => (sink, { o with deferred := o.deferred + posts })

def carryAll (sink : σ) (o : Outcome) : List Effect → σ × Outcome
  | [] => (sink, o)
  | effect :: effects =>
    let (sink, o) := target.carry sink o effect
    carryAll sink o effects

/-- The sink after records were put into it one by one. -/
def insertAll (sink : σ) (records : List Record) : σ :=
  records.foldl (fun sink record => (target.insert sink record).2) sink

/-- How a file ends: only one that broke off has no outcome. -/
def endOf (contents : Contents) (o : Outcome) : FileEnd :=
  match contents with
  | .broken message => .error message
  | _ => .ok o

/-- Carries out the effects of files, each with an outcome of its own. -/
def carryFiles (sink : σ) : List SourceFile → List (List Effect) → σ × List FileEnd
  | file :: files, effects :: rest =>
    let (sink, o) := target.carryAll sink { name := file.name } effects
    let (sink, ends) := carryFiles sink files rest
    (sink, endOf file.contents o :: ends)
  | _, _ => (sink, [])

theorem carryAll_cons (sink : σ) (o : Outcome) (effect : Effect) (rest : List Effect) :
    target.carryAll sink o (effect :: rest) =
      target.carryAll (target.carry sink o effect).1 (target.carry sink o effect).2 rest := rfl

theorem carryAll_append (sink : σ) (o : Outcome) (first second : List Effect) :
    target.carryAll sink o (first ++ second) =
      target.carryAll (target.carryAll sink o first).1 (target.carryAll sink o first).2 second := by
  induction first generalizing sink o with
  | nil => rfl
  | cons effect rest ih => exact ih _ _

theorem insertAll_append (sink : σ) (first second : List Record) :
    target.insertAll sink (first ++ second) =
      target.insertAll (target.insertAll sink first) second := List.foldl_append

/-- Only writes reach the sink. -/
theorem carryAll_sink (sink : σ) (o : Outcome) (effects : List Effect) :
    (target.carryAll sink o effects).1 = target.insertAll sink (Effect.records effects) := by
  induction effects generalizing sink o with
  | nil => rfl
  | cons effect rest ih =>
    rw [carryAll, ih]
    cases effect <;> rfl

/-- The run and the outcome once routed effects are carried out. -/
def settle (sink : σ) (o : Outcome) (routed : Resolution × List Effect) : Progress σ × Outcome :=
  (⟨routed.1, (target.carryAll sink o routed.2).1⟩, (target.carryAll sink o routed.2).2)

theorem writeAll_eq (p : Progress σ) (o : Outcome) (records : List Record) :
    target.writeAll p o records = target.settle p.sink o (p.resolution, records.map .write) := by
  induction records generalizing p o with
  | nil => rfl
  | cons record rest ih => exact ih _ _

theorem writeAssigned_eq (p : Progress σ) (o : Outcome) (assigned : List Assignment) :
    target.writeAssigned p o assigned =
      target.settle p.sink o (p.resolution, Effect.ofAssigned assigned) := by
  rw [writeAssigned, writeAll_eq, List.map_map]
  rfl

/-- Taking an item carries out what the item comes to. -/
theorem take_eq (p : Progress σ) (o : Outcome) (item : Item) :
    target.take p o item = target.settle p.sink o (p.resolution.route item) := by
  cases item with
  | malformed error => rfl
  | record record =>
    cases record with
    | post post =>
      cases pending : post.isPending <;>
        simp [take, Resolution.route, pending, settle, carryAll, carry, write]
    | topic topic =>
      cases done : p.resolution.register topic.lastPost topic.id <;>
        simp [take, registerTopic, Resolution.route, done, settle, carryAll, carry, write,
          writeAssigned_eq]
    | _ => rfl

theorem takeAll_eq (p : Progress σ) (o : Outcome) (items : List Item) :
    items.foldl (fun (p, o) item => target.take p o item) (p, o) =
      target.settle p.sink o (p.resolution.routeItems items) := by
  induction items generalizing p o with
  | nil => rfl
  | cons item rest ih =>
    change rest.foldl (fun (p, o) item => target.take p o item) (target.take p o item) = _
    rw [take_eq, settle, ih]
    simp only [settle, Resolution.routeItems, carryAll_append]

theorem defer_eq (p : Progress σ) (o : Outcome) (posts : List Post) :
    target.defer p o posts = target.settle p.sink o (p.resolution.routePage posts) := by
  unfold defer Resolution.routePage
  cases found : p.resolution.topicOf? posts with
  | some topic => exact writeAssigned_eq target p o _
  | none =>
    obtain ⟨resolution, filing⟩ := p.resolution.file posts
    cases filing with
    | assigned assigned => exact writeAssigned_eq target _ o _
    | waits => rfl
    | refused => rfl

theorem process_eq (p : Progress σ) (file : SourceFile) :
    target.process p file =
      let (p, o) := target.settle p.sink { name := file.name }
        (p.resolution.routeContents file.contents)
      (p, endOf file.contents o) := by
  cases kind : file.contents with
  | items items =>
    simp only [process, kind, takeItems, takeAll_eq, Resolution.routeContents]
    cases pending : pendingPosts items with
    | nil => rfl
    | cons post rest => simp only [defer_eq, settle, carryAll_append, endOf]
  | _ => simp [process, kind, Resolution.routeContents, settle, carryAll, carry, endOf]

/-- Going through files carries out what they come to. -/
theorem processAll_eq (p : Progress σ) (files : List SourceFile) :
    target.processAll p files =
      let (resolution, effects) := p.resolution.routeAll files
      let (sink, ends) := target.carryFiles p.sink files effects
      (⟨resolution, sink⟩, ends) := by
  induction files generalizing p with
  | nil => rfl
  | cons file rest ih => simp only [processAll, process_eq, ih, settle, Resolution.routeAll, carryFiles]

theorem finish_eq (p : Progress σ) (fallback : Int) :
    target.finish p fallback =
      let (resolution, assigned) := p.resolution.flush fallback
      let (p, o) := target.settle p.sink { name := unresolvedName }
        (resolution, Effect.ofAssigned assigned)
      (p, o, assigned.length) := by
  simp only [finish, writeAssigned_eq]

/-- Outcomes apart, going through files puts their records into the sink. -/
theorem carryFiles_sink (sink : σ) (r : Resolution) (files : List SourceFile) :
    (target.carryFiles sink files (r.routeAll files).2).1 =
      target.insertAll sink ((r.routeAll files).2.flatMap Effect.records) := by
  induction files generalizing sink r with
  | nil => rfl
  | cons file rest ih =>
    simp only [Resolution.routeAll, carryFiles, List.flatMap_cons, insertAll_append, ← carryAll_sink
      target sink { name := file.name }]
    exact ih _ _

end Target

/-- Records written while the files are gone through. -/
def earlyRecords (files : List SourceFile) : List Record :=
  (Resolution.routeAll {} files).2.flatMap Effect.records

/-- Posts written when all files are done. -/
def latePosts (files : List SourceFile) (fallback : Int) : List Record :=
  ((Resolution.routeAll {} files).1.flush fallback).2.map fun a => .post a.resolved

/-- Every record that a run which is not broken off puts into its target, in order. -/
def insertions (files : List SourceFile) (fallback : Int) : List Record :=
  earlyRecords files ++ latePosts files fallback

namespace Target

variable {σ : Type} (target : Target σ)

theorem run_eq (sink : σ) (fallback : Int) (files : List SourceFile) (halt : Halt)
    (unbroken : halt.ending files.length ≠ .aborted) :
    target.run sink fallback files halt =
      let (r, effects) := Resolution.routeAll {} (halt.taken files)
      let (begun, ends) := target.carryFiles sink (halt.taken files) effects
      let (_, assigned) := r.flush fallback
      let (final, last) := target.carryAll begun { name := unresolvedName } (Effect.ofAssigned assigned)
      ⟨target.close final, (outcomes ends).map Outcome.report,
        some (summarize files.length ends last assigned.length
          (halt.ending files.length == .stopped))⟩ := by
  simp only [run, processAll_eq, finish_eq, settle]

/-- The summary of a run over all files. -/
def account (sink : σ) (fallback : Int) (files : List SourceFile) : Summary :=
  let (r, effects) := Resolution.routeAll {} files
  let (begun, ends) := target.carryFiles sink files effects
  let (_, assigned) := r.flush fallback
  let (_, last) := target.carryAll begun { name := unresolvedName } (Effect.ofAssigned assigned)
  summarize files.length ends last assigned.length false

theorem run_summary (sink : σ) (fallback : Int) (files : List SourceFile) :
    (target.run sink fallback files .never).summary = some (target.account sink fallback files) := by
  rw [run_eq target sink fallback files .never (by simp [Halt.ending])]
  rfl

/-- The sink a run leaves behind, however often it was asked to stop. -/
theorem run_sink (sink : σ) (fallback : Int) (files : List SourceFile) (halt : Halt)
    (unbroken : halt.ending files.length ≠ .aborted) :
    (target.run sink fallback files halt).sink =
      target.close (target.insertAll sink (insertions (halt.taken files) fallback)) := by
  rw [run_eq target sink fallback files halt unbroken]
  simp only [insertions, earlyRecords, latePosts, insertAll_append, ← carryFiles_sink,
    ← Effect.records_ofAssigned, ← carryAll_sink target _ { name := unresolvedName }]

/-- A run that is broken off writes nothing at its end. -/
theorem run_aborted (sink : σ) (fallback : Int) (files : List SourceFile) (halt : Halt)
    (broken : halt.ending files.length = .aborted) :
    (target.run sink fallback files halt).sink =
      target.close (target.insertAll sink (earlyRecords (halt.taken files))) := by
  simp only [run, processAll_eq, broken, earlyRecords, ← carryFiles_sink]

/-- A run that breaks off leaves no summary, and one that is stopped says so. -/
theorem run_complete {sink : σ} {fallback : Int} {files : List SourceFile} {halt : Halt}
    {summary : Summary} (done : (target.run sink fallback files halt).summary = some summary)
    (whole : summary.stopped = false) :
    target.run sink fallback files halt = target.run sink fallback files .never := by
  have ending : halt.ending files.length = .complete := by
    cases ends : halt.ending files.length with
    | complete => rfl
    | stopped =>
      rw [run_eq _ _ _ _ _ (by simp [ends])] at done
      obtain rfl := Option.some.inj done
      simp [summarize, ends] at whole
    | aborted => simp [run, ends] at done
  have taken : halt.taken files = files := by
    cases halt with
    | never => rfl
    | atOnce => cases ending
    | stopBefore k =>
      apply List.take_of_length_le
      simpa [Halt.ending] using ending
    | abortBefore k =>
      apply List.take_of_length_le
      simpa [Halt.ending] using ending
  rw [run_eq _ _ _ _ _ (by simp [ending]), run_eq _ _ _ _ .never (by simp [Halt.ending]), taken, ending]
  rfl

end Target
end BoardMigration
