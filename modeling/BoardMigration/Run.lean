import BoardMigration.Run.File

/-! A run over the files of an export. Files are taken one after another; a file's records are written
at once, except posts without a topic, which go through the resolution. When all files are done, posts
that still wait are written with a topic to fall back on, and the target is closed. -/
namespace BoardMigration

structure Target (σ : Type) where
  /-- Says whether the record was written; one that is there already is not. -/
  insert : σ → Record → Except WriteFault Bool × σ
  close : σ → σ

structure Progress (σ : Type) where
  resolution : Resolution := {}
  sink : σ

/-- The name under which errors of the last writes are told; a file that broke off goes by the other one. -/
def unresolvedName : String := "unresolved posts"

def unknownName : String := "unknown"

namespace Target

variable {σ : Type} (target : Target σ)

def write (p : Progress σ) (o : Outcome) (record : Record) : Progress σ × Outcome :=
  let (answer, sink) := target.insert p.sink record
  ({ p with sink }, o.count answer)

def writeAll (p : Progress σ) (o : Outcome) (records : List Record) : Progress σ × Outcome :=
  records.foldl (fun (p, o) record => target.write p o record) (p, o)

def writeAssigned (p : Progress σ) (o : Outcome) (assigned : List Assignment) :
    Progress σ × Outcome :=
  target.writeAll p o (assigned.map fun a => .post a.resolved)

/-- Posts that go out with a topic count for the file that names the topic. -/
def registerTopic (p : Progress σ) (o : Outcome) (topic : Topic) : Progress σ × Outcome :=
  match p.resolution.register topic.lastPost topic.id with
  | .error conflict => (p, o.fail (.conflict conflict))
  | .ok (resolution, assigned) => target.writeAssigned { p with resolution } o assigned

/-- Handles an item as it comes up; a post without a topic is left for later. -/
def take (p : Progress σ) (o : Outcome) : Item → Progress σ × Outcome
  | .malformed error => (p, o.fail (.malformed error))
  | .record (.post post) =>
    if post.isPending then (p, o) else target.write p o (.post post)
  | .record (.topic topic) =>
    let (p, o) := target.write p o (.topic topic)
    target.registerTopic p o topic
  | .record record => target.write p o record

def pendingPosts (items : List Item) : List Post :=
  items.filterMap fun
    | .record (.post post) => if post.isPending then some post else none
    | _ => none

/-- A topic that is known already is found without filing. -/
def defer (p : Progress σ) (o : Outcome) (posts : List Post) : Progress σ × Outcome :=
  match p.resolution.topicOf? posts with
  | some topic => target.writeAssigned p o (posts.map (⟨·, topic⟩))
  | none =>
    match p.resolution.file posts with
    | (resolution, .assigned assigned) => target.writeAssigned { p with resolution } o assigned
    | (resolution, .waits) =>
      ({ p with resolution }, { o with deferred := o.deferred + posts.length })
    | (resolution, .refused) =>
      ({ p with resolution }, o.fail (.unexpected Resolution.lateMessage))

def takeItems (p : Progress σ) (o : Outcome) (items : List Item) : Progress σ × Outcome :=
  let (p, o) := items.foldl (fun (p, o) item => target.take p o item) (p, o)
  match pendingPosts items with
  | [] => (p, o)
  | posts => target.defer p o posts

/-- What came of one file: an outcome, or the message of what broke it off. -/
abbrev FileEnd := Except String Outcome

def process (p : Progress σ) (file : SourceFile) : Progress σ × FileEnd :=
  let start : Outcome := { name := file.name }
  match file.contents with
  | .unreadable => (p, .ok (start.fail .unreadable))
  | .garbled => (p, .ok (start.fail .garbled))
  | .foreign => (p, .ok start)
  | .broken message => (p, .error message)
  | .items items =>
    let (p, o) := target.takeItems p start items
    (p, .ok o)

def processAll (p : Progress σ) : List SourceFile → Progress σ × List FileEnd
  | [] => (p, [])
  | file :: files =>
    let (p, done) := target.process p file
    let (p, rest) := processAll p files
    (p, done :: rest)

def finish (p : Progress σ) (fallback : Int) : Progress σ × Outcome × Nat :=
  let (resolution, assigned) := p.resolution.flush fallback
  let (p, o) := target.writeAssigned { p with resolution } { name := unresolvedName } assigned
  (p, o, assigned.length)

end Target

/-- What ends a run before its last file: a stop asked for before it begins or just before file `k` is taken,
counted from 0, or a second request right after that stop, which breaks the run off. -/
inductive Halt where
  | never
  | atOnce
  | stopBefore (k : Nat)
  | abortBefore (k : Nat)
  deriving DecidableEq, Repr

inductive Ending where
  | complete | stopped | aborted
  deriving DecidableEq, Repr

namespace Halt

def ending (halt : Halt) (n : Nat) : Ending :=
  match halt with
  | never => .complete
  | atOnce => .stopped
  | stopBefore k => if k < n then .stopped else .complete
  | abortBefore k => if k < n then .aborted else .complete

def taken (halt : Halt) (files : List α) : List α :=
  match halt with
  | never => files
  | atOnce => []
  | stopBefore k => files.take k
  | abortBefore k => files.take k

/-- Requests that arrive before the given files: the first stops, a second before the same file breaks
off, and files after a stop are never reached. -/
def ofRequests (requests : List Nat) : Halt :=
  match requests.min? with
  | none => never
  | some k => if requests.count k ≤ 1 then stopBefore k else abortBefore k

end Halt

/-- The outcome of a run. Files with errors count as failed, all others as processed; flushed are the posts that
were written with the topic to fall back on. -/
structure Summary where
  files : Nat
  processed : Nat
  failed : Nat
  written : Nat
  present : Nat
  deferred : Nat
  flushed : Nat
  stopped : Bool
  errors : List (String × FileError)
  deriving DecidableEq, Repr

/-- A run that is over. Breaking it off leaves no summary. -/
structure Completed (σ : Type) where
  sink : σ
  reports : List Report
  summary : Option Summary

namespace Target

variable {σ : Type} (target : Target σ)

def outcomes (ends : List FileEnd) : List Outcome := ends.filterMap Except.toOption

def FileEnd.errors : FileEnd → List (String × FileError)
  | .ok o => o.errors.map ((o.name, ·))
  | .error message => [(unknownName, .unexpected message)]

def FileEnd.failed (done : FileEnd) : Bool := !(FileEnd.errors done).isEmpty

def total (count : Outcome → Nat) : List Outcome → Nat
  | [] => 0
  | o :: rest => count o + total count rest

def summarize (files : Nat) (ends : List FileEnd) (last : Outcome) (flushed : Nat)
    (stopped : Bool) : Summary :=
  let all := outcomes ends ++ [last]
  { files, flushed, stopped
    processed := ends.countP (!FileEnd.failed ·)
    failed := ends.countP FileEnd.failed
    written := total (·.written) all
    present := total (·.present) all
    deferred := total (·.deferred) all
    errors := ends.flatMap FileEnd.errors ++ last.errors.map ((last.name, ·)) }

def run (sink : σ) (fallback : Int) (files : List SourceFile) (halt : Halt) : Completed σ :=
  let (p, ends) := target.processAll { sink } (halt.taken files)
  let reports := (outcomes ends).map Outcome.report
  match halt.ending files.length with
  | .aborted => ⟨target.close p.sink, reports, none⟩
  | ending =>
    let (p, last, flushed) := target.finish p fallback
    ⟨target.close p.sink, reports,
      some (summarize files.length ends last flushed (ending == .stopped))⟩

end Target
end BoardMigration
