import BoardMigration.Proofs.Run.Waits
import BoardMigration.Proofs.Run.Watched

/-! The books of a run. Each file that is taken is reported, unless it breaks off, with what is wrong in it,
with the topics it contradicts and with the writes that fail while it is processed; the summary repeats
these errors and counts the files. A post that waits is written by the topic that turns up for it or, at
the end, by the run. -/
namespace BoardMigration

def SourceFile.broken? (file : SourceFile) : Option String :=
  match file.contents with
  | .broken message => some message
  | _ => none

def Target.FileEnd.broken? : Target.FileEnd → Option String
  | .ok _ => none
  | .error message => some message

/-- What is reported of files, one after another, that come after some topics. -/
inductive Reported : List Topic → List SourceFile → List (List Ask) → List Report → Prop where
  | nil (earlier : List Topic) : Reported earlier [] [] []
  | broken {earlier : List Topic} {file : SourceFile} {files : List SourceFile} {asked : List (List Ask)}
    {reports : List Report} (broken : file.broken?.isSome) (others : Reported earlier files asked reports) :
    Reported earlier (file :: files) ([] :: asked) reports
  | told {earlier : List Topic} {file : SourceFile} {files : List SourceFile} {own : List Ask}
    {asked : List (List Ask)} {reports : List Report} {errors : List FileError}
    (whole : file.broken? = none)
    (errors_eq : errors.Perm (file.contents.faultsAfter earlier ++ faults own))
    (others : Reported (earlier ++ file.contents.topics) files asked reports) :
    Reported earlier (file :: files) (own :: asked) (⟨file.name, errors⟩ :: reports)

/-- Errors of a report as a summary lists them. -/
def Report.entries (report : Report) : List (String × FileError) := report.errors.map ((report.name, ·))

/-- The books of a run over `taken`: for each file what was `asked` of the target, and `last` what was
asked when all files were done. -/
structure Balanced (taken : List SourceFile) (asked : List (List Ask)) (last : List Ask)
    (reports : List Report) (summary : Summary) : Prop where
  counted : summary.processed + summary.failed = taken.length
  failed : summary.failed =
    reports.countP (!·.errors.isEmpty) + (taken.filterMap SourceFile.broken?).length
  reported : Reported [] taken asked reports
  errors : summary.errors.Perm (reports.flatMap Report.entries ++
    (taken.filterMap SourceFile.broken?).map ((unknownName, .unexpected ·)) ++
    (faults last).map ((unresolvedName, ·)))
  deferred : summary.deferred = summary.flushed + (claimedLater taken).length
  flushed : summary.flushed = last.length
  /-- While files are processed, posts that waited are written beside what goes as it comes. -/
  written : ∃ handed : List Assignment,
    (asked.flatten.filterMap Ask.record?).Perm
      (taken.flatMap (·.contents.direct) ++ resolvedRecords handed) ∧
    (handed.map (·.post)).Perm ((readyPages taken).flatten ++ claimedLater taken)

theorem faults_append (first second : List Ask) :
    faults (first ++ second) = faults first ++ faults second := by
  simp [faults]

theorem count_fault (o : Outcome) (record : Record) (answer : Except WriteFault Bool) :
    (o.count answer).name = o.name ∧
    (o.count answer).errors = o.errors ++ faults [.insert record answer] := by
  rcases answer with fault | _ | _ <;> simp [Outcome.count, Outcome.fail, faults, Ask.fault?]

namespace Target

variable {σ : Type} (target : Target σ)

/-- The errors of a file are those it comes to, and its failed writes. -/
theorem carryAll_errors (sink : σ) (o : Outcome) (effects : List Effect) :
    (target.carryAll sink o effects).2.name = o.name ∧
    (target.carryAll sink o effects).2.errors.Perm
      (o.errors ++ (Effect.errors effects ++ faults (target.asks sink effects))) := by
  induction effects generalizing sink o with
  | nil => simp [carryAll, Effect.errors, asks]
  | cons effect rest ih =>
    obtain ⟨name, errors⟩ := ih (target.carry sink o effect).1 (target.carry sink o effect).2
    rw [carryAll_cons]
    cases effect with
    | write record =>
      obtain ⟨same, more⟩ := count_fault o record (target.insert sink record).1
      refine ⟨name.trans same, errors.trans ?_⟩
      have first : faults (target.asks sink (.write record :: rest)) =
          faults [.insert record (target.insert sink record).1] ++
            faults (target.asks (target.insert sink record).2 rest) := faults_append [_] _
      have own : (target.carry sink o (.write record)).2.errors =
          o.errors ++ faults [.insert record (target.insert sink record).1] := more
      rw [own, first, List.append_assoc, ← List.append_assoc (Effect.errors _)]
      have swap : (faults [.insert record (target.insert sink record).1] ++ Effect.errors rest).Perm
          (Effect.errors rest ++ faults [.insert record (target.insert sink record).1]) :=
        List.perm_append_comm
      have later := swap.append_right (faults (target.asks (target.insert sink record).2 rest))
      rw [List.append_assoc] at later
      exact later.append_left _
    | fail error =>
      refine ⟨name, errors.trans ?_⟩
      simp [carry, Outcome.fail, Effect.errors, Effect.error?, asks]
    | wait posts => exact ⟨name, errors⟩

theorem contents_of_broken? {file : SourceFile} {message : String} (broken : file.broken? = some message) :
    file.contents = .broken message := by
  unfold SourceFile.broken? at broken
  split at broken
  · next contents =>
    obtain rfl := Option.some.inj broken
    exact contents
  · cases broken

theorem endOf_of_whole {file : SourceFile} (whole : file.broken? = none) (o : Outcome) :
    endOf file.contents o = .ok o := by
  unfold endOf
  split
  · next contents => simp [SourceFile.broken?, contents] at whole
  · rfl

theorem reported_carryFiles {r : Resolution} {earlier : List Topic} (knows : r.Knows earlier)
    (open_ : r.flushed = false) (sink : σ) (files : List SourceFile) :
    Reported earlier files (target.asksEach sink (r.routeAll files).2)
      ((outcomes (target.carryFiles sink files (r.routeAll files).2).2).map Outcome.report) := by
  induction files generalizing r earlier sink with
  | nil => exact .nil earlier
  | cons file rest ih =>
    obtain ⟨next, wrong⟩ := knows.routeContents open_ file.contents
    have still := Resolution.routeContents_flushed open_ file.contents
    have others := ih next still (target.insertAll sink (Effect.records (r.routeContents file.contents).2))
    obtain ⟨name, errors⟩ := target.carryAll_errors sink { name := file.name }
      (r.routeContents file.contents).2
    simp only [Resolution.routeAll, asksEach, carryFiles, carryAll_sink]
    cases broken : file.broken? with
    | some message =>
      have contents := contents_of_broken? broken
      rw [contents] at others next ⊢
      have none : earlier ++ (Contents.broken message).topics = earlier := List.append_nil earlier
      rw [none] at others
      exact .broken (by simp [broken]) others
    | none =>
      rw [endOf_of_whole broken]
      have own : (target.carryAll sink { name := file.name } (r.routeContents file.contents).2).2.report =
          ⟨file.name,
            (target.carryAll sink { name := file.name } (r.routeContents file.contents).2).2.errors⟩ := by
        rw [Outcome.report, name]
      simp only [outcomes, List.filterMap_cons, Except.toOption, List.map_cons, own]
      refine .told broken ?_ others
      exact errors.trans (wrong.append_right _)

/-- What is asked at the end tells the errors of the end. -/
theorem entries_carryAll (sink : σ) (assigned : List Assignment) :
    let last := (target.carryAll sink { name := unresolvedName } (Effect.ofAssigned assigned)).2
    (last.errors.map ((last.name, ·))).Perm
      ((faults (target.asks sink (Effect.ofAssigned assigned))).map ((unresolvedName, ·))) := by
  intro last
  obtain ⟨name, errors⟩ := target.carryAll_errors sink { name := unresolvedName } (Effect.ofAssigned assigned)
  rw [Effect.errors_ofAssigned] at errors
  change last.name = unresolvedName at name
  rw [name]
  exact errors.map _

/-- Errors of files are those reported and those that broke files off. -/
theorem entries_ends (ends : List FileEnd) :
    (ends.flatMap FileEnd.errors).Perm (((outcomes ends).map Outcome.report).flatMap Report.entries ++
      (ends.filterMap FileEnd.broken?).map ((unknownName, .unexpected ·))) := by
  induction ends with
  | nil => exact .nil
  | cons done rest ih =>
    cases done with
    | ok o =>
      simp only [outcomes, List.filterMap_cons, Except.toOption, FileEnd.broken?, List.flatMap_cons,
        List.map_cons, List.append_assoc]
      exact ih.append_left _
    | error message =>
      simp only [outcomes, List.filterMap_cons, Except.toOption, FileEnd.broken?, List.flatMap_cons,
        List.map_cons]
      exact (ih.cons _).trans List.perm_middle.symm

theorem failed_ends (ends : List FileEnd) : ends.countP FileEnd.failed =
    ((outcomes ends).map Outcome.report).countP (!·.errors.isEmpty) +
      (ends.filterMap FileEnd.broken?).length := by
  induction ends with
  | nil => rfl
  | cons done rest ih =>
    cases done with
    | ok o =>
      have same : FileEnd.failed (.ok o) = !o.report.errors.isEmpty := by
        simp [FileEnd.failed, FileEnd.errors, Outcome.report]
      rw [List.countP_cons, ih, same]
      simp only [outcomes, List.filterMap_cons, Except.toOption, FileEnd.broken?, List.map_cons,
        List.countP_cons]
      omega
    | error message =>
      rw [List.countP_cons_of_pos (by rfl), ih]
      simp only [outcomes, List.filterMap_cons, Except.toOption, FileEnd.broken?, List.length_cons]
      omega

theorem processed_add_failed (ends : List FileEnd) :
    ends.countP (!FileEnd.failed ·) + ends.countP FileEnd.failed = ends.length := by
  have split := List.length_eq_countP_add_countP FileEnd.failed (l := ends)
  simp only [Bool.not_eq_true, Bool.decide_eq_false] at split
  omega

/-- Each file has one end, and a broken one that of its own. -/
theorem ends_carryFiles (sink : σ) (r : Resolution) (files : List SourceFile) :
    let ends := (target.carryFiles sink files (r.routeAll files).2).2
    ends.length = files.length ∧
      ends.filterMap FileEnd.broken? = files.filterMap SourceFile.broken? := by
  induction files generalizing sink r with
  | nil => exact ⟨rfl, rfl⟩
  | cons file rest ih =>
    obtain ⟨same, others⟩ := ih (target.carryAll sink { name := file.name }
      (r.routeContents file.contents).2).1 (r.routeContents file.contents).1
    have own (o : Outcome) : FileEnd.broken? (endOf file.contents o) = file.broken? := by
      cases broken : file.broken? with
      | some message => rw [contents_of_broken? broken]; rfl
      | none => rw [endOf_of_whole broken]; rfl
    simp only [Resolution.routeAll, carryFiles, List.length_cons, filterMap_cons_toList, own]
    exact ⟨congrArg (· + 1) same, congrArg (file.broken?.toList ++ ·) others⟩

theorem carryAll_deferred (sink : σ) (o : Outcome) (effects : List Effect) :
    (target.carryAll sink o effects).2.deferred = o.deferred + Effect.waits effects := by
  induction effects generalizing sink o with
  | nil => rfl
  | cons effect rest ih =>
    rw [carryAll_cons, ih]
    cases effect with
    | write record =>
      have same (answer : Except WriteFault Bool) : (o.count answer).deferred = o.deferred := by
        rcases answer with fault | _ | _ <;> rfl
      exact congrArg (· + Effect.waits rest) (same _)
    | fail error => rfl
    | wait posts => exact Nat.add_assoc _ _ _

theorem deferred_carryFiles {r : Resolution} {earlier : List Topic} (knows : r.Knows earlier)
    (open_ : r.flushed = false) (sink : σ) (files : List SourceFile) :
    total Outcome.deferred (outcomes (target.carryFiles sink files (r.routeAll files).2).2) =
      (((arrivals earlier files).filter fun page => unclaimed page.1 page.2).map (·.2)).flatten.length := by
  induction files generalizing r earlier sink with
  | nil => rfl
  | cons file rest ih =>
    have own := knows.waits_routeContents open_ file.contents
    have next := (knows.routeContents open_ file.contents).1
    have still := Resolution.routeContents_flushed open_ file.contents
    have others := ih next still
      (target.carryAll sink { name := file.name } (r.routeContents file.contents).2).1
    have here := target.carryAll_deferred sink { name := file.name } (r.routeContents file.contents).2
    rw [own] at here
    have split (ends : List FileEnd) : total Outcome.deferred (outcomes (endOf file.contents
          (target.carryAll sink { name := file.name } (r.routeContents file.contents).2).2 :: ends)) =
        (bif unclaimed (earlier ++ file.contents.topics) file.contents.pending
          then file.contents.pending.length else 0) + total Outcome.deferred (outcomes ends) := by
      cases broken : file.broken? with
      | some message =>
        rw [contents_of_broken? broken]
        simp [endOf, outcomes, Except.toOption, Contents.pending, List.filterMap_cons]
      | none =>
        rw [endOf_of_whole broken]
        simp only [outcomes, List.filterMap_cons, Except.toOption, total, here, Nat.zero_add]
    simp only [Resolution.routeAll, carryFiles, split, others, arrivals, List.filter_cons]
    cases unclaimed (earlier ++ file.contents.topics) file.contents.pending <;> simp

end Target

theorem Halt.taken_subset (halt : Halt) (files : List SourceFile) : halt.taken files ⊆ files := by
  cases halt with
  | never => exact List.Subset.refl _
  | atOnce => exact List.nil_subset _
  | stopBefore k => exact List.take_subset _ _
  | abortBefore k => exact List.take_subset _ _

/-- The books of what files come to, for whatever target. -/
theorem balanced {σ : Type} (target : Target σ) (sink : σ) (fallback : Int) (files : Nat)
    (taken : List SourceFile) (stopped : Bool)
    (distinct : ∀ file ∈ taken, (file.contents.pending.map Post.id).Nodup) :
    let routed := Resolution.routeAll {} taken
    let carried := target.carryFiles sink taken routed.2
    let assigned := (routed.1.flush fallback).2
    Balanced taken (target.asked { sink } taken) (target.lastAsks sink fallback taken)
      ((Target.outcomes carried.2).map Outcome.report)
      (Target.summarize files carried.2
        (target.carryAll carried.1 { name := unresolvedName } (Effect.ofAssigned assigned)).2
        assigned.length stopped) := by
  intro routed carried assigned
  obtain ⟨handed, written, posts⟩ := handed_early taken distinct
  have left := length_flush_unclaimed taken fallback distinct
  obtain ⟨ends, broken⟩ := target.ends_carryFiles sink {} taken
  have last : target.lastAsks sink fallback taken = target.asks carried.1 (Effect.ofAssigned assigned) := by
    rw [Target.lastAsks, earlyRecords, ← Target.carryFiles_sink]
  exact {
    counted := by
      rw [← ends]
      exact Target.processed_add_failed _
    failed := by
      rw [← broken]
      exact Target.failed_ends _
    reported := by
      rw [Target.asked_eq]
      exact target.reported_carryFiles Resolution.knows_empty rfl sink taken
    errors := by
      rw [← broken, last]
      exact (Target.entries_ends _).append (target.entries_carryAll _ _)
    deferred := by
      have waits := target.deferred_carryFiles Resolution.knows_empty rfl sink taken
      have none := target.carryAll_deferred carried.1 { name := unresolvedName } (Effect.ofAssigned assigned)
      rw [Effect.waits_ofAssigned] at none
      have parts := (waiting_split taken).length_eq
      rw [List.length_append, ← left] at parts
      simp only [Target.summarize, Target.total_append, Target.total, none]
      exact (waits.trans parts).trans (Nat.add_comm _ _)
    flushed := by
      rw [last, Target.length_asks, Effect.records_ofAssigned, List.length_map]
      rfl
    written := by
      refine ⟨handed, ?_, posts⟩
      rw [Target.asked_eq, Target.records_asksEach]
      exact written }

/-- A run that is not broken off keeps its books, however its target answers. -/
theorem run_balanced {σ : Type} (target : Target σ) (sink : σ) (fallback : Int) (files : List SourceFile)
    (halt : Halt) (unbroken : halt.ending files.length ≠ .aborted)
    (distinct : ∀ file ∈ files, (file.contents.pending.map Post.id).Nodup) :
    ∃ last summary,
      target.watched.run (sink, []) fallback files halt =
        ⟨((target.run sink fallback files halt).sink,
            (target.asked { sink } (halt.taken files)).flatten ++ last ++ [.close]),
          (target.run sink fallback files halt).reports, some summary⟩ ∧
      (target.run sink fallback files halt).summary = some summary ∧
      Balanced (halt.taken files) (target.asked { sink } (halt.taken files)) last
        (target.run sink fallback files halt).reports summary := by
  have takenDistinct : ∀ file ∈ halt.taken files, (file.contents.pending.map Post.id).Nodup :=
    fun file member => distinct file (halt.taken_subset files member)
  have books := balanced target sink fallback files.length (halt.taken files)
    (halt.ending files.length == .stopped) takenDistinct
  have done := target.run_eq sink fallback files halt unbroken
  have watched := target.run_watched sink fallback files halt unbroken
  have ends := congrArg Completed.summary done
  have reports := congrArg Completed.reports done
  simp only at ends reports
  simp only [ends] at watched
  refine ⟨_, _, watched, ends, ?_⟩
  rw [reports]
  exact books

/-- A page waits for a later file and another to the end, a topic is contradicted, a file breaks off and
every third write fails; the run is stopped before its last file. -/
theorem run_balanced_stopped :
    let post (n : Int) : Item := .record (.post { id := n, poster := "Bob" })
    let topic (n last : Int) : Item := .record (.topic { id := n, subject := "News", lastPost := last })
    let files : List SourceFile := [⟨"a", .items [post 1, post 2]⟩,
      ⟨"b", .items [topic 7 2, .malformed ⟨"no id"⟩, topic 8 2]⟩, ⟨"c", .broken "gone"⟩,
      ⟨"d", .items [post 9]⟩, ⟨"e", .unreadable⟩, ⟨"f", .items [topic 10 9]⟩]
    let target : Target Nat := {
      insert := fun n _ => (if n % 3 = 2 then .error (.refused "full") else .ok (n % 2 = 0), n + 1)
      close := id }
    let halt := Halt.stopBefore 5
    (halt.ending files.length ≠ .aborted ∧
      ∀ file ∈ files, (file.contents.pending.map Post.id).Nodup) ∧
    ∃ last summary,
      target.watched.run (0, []) 0 files halt =
        ⟨((target.run 0 0 files halt).sink,
            (target.asked { sink := 0 } (halt.taken files)).flatten ++ last ++ [.close]),
          (target.run 0 0 files halt).reports, some summary⟩ ∧
      (target.run 0 0 files halt).summary = some summary ∧
      Balanced (halt.taken files) (target.asked { sink := 0 } (halt.taken files)) last
        (target.run 0 0 files halt).reports summary := by
  intro post topic files target halt
  have unbroken : halt.ending files.length ≠ .aborted := by decide
  have distinct : ∀ file ∈ files, (file.contents.pending.map Post.id).Nodup := by decide
  exact ⟨⟨unbroken, distinct⟩, run_balanced target 0 0 files halt unbroken distinct⟩

end BoardMigration
