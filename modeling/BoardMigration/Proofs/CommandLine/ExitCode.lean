import BoardMigration.CommandLine.Execute
import BoardMigration.Proofs.Console.Listing
import BoardMigration.Proofs.Migration.Board

/-! When a migration from the command line fails. Whatever the files are called and contain, a migration
that can begin comes to its summary, but for one thing: a root without files is told by its name as styled
text, and a name that closes a style breaks the command off. -/
namespace BoardMigration.CommandLine

open Console

/-- Why a migration cannot begin. -/
inductive SetupFails (fs : Export.FileSystem) (root : Export.Path) (address : String) (config : Config) : Prop
  | unlisted (none : fs.listing? root = none)
  | unconnected {error : Store.ConnectError} (failed : Store.connect fs address = .error error)
  /-- Nothing can be created in a file that is no database. -/
  | garbage {opened : Store.Opened} (connected : Store.connect fs address = .ok opened)
      (anew : config.append = false) (foreign : opened.medium = .garbage)
  | unprovisioned {opened : Store.Opened} {db : Store.Database} (connected : Store.connect fs address = .ok opened)
      (anew : config.append = false) (open_ : opened.medium = .database db)
      (refused : ¬ Store.Creatable db config.tablePrefix)

theorem SetupFails.begins {fs : Export.FileSystem} {root : Export.Path} {address : String} {config : Config}
    {opened : Store.Opened} {db : Store.Database} (listed : fs.listing? root ≠ none)
    (connected : Store.connect fs address = .ok opened) (open_ : opened.medium = .database db)
    (creatable : config.append = false → Store.Creatable db config.tablePrefix) :
    ¬ SetupFails fs root address config := by
  rintro (none | failed | ⟨here, -, foreign⟩ | ⟨here, anew, other, refused⟩)
  · exact listed none
  · cases connected.symm.trans failed
  · cases connected.symm.trans here
    cases open_.symm.trans foreign
  · cases connected.symm.trans here
    cases open_.symm.trans other
    exact refused (creatable anew)

/-- Setup does not fail for a root that is listed, and a new database. -/
theorem empty_begins {fs : Export.FileSystem} {root : Export.Path} {address : String} {config : Config}
    (listed : (fs.listing? root).isSome = true)
    (connected : (Store.connect fs address).toOption.map (·.medium) = some (.database {}))
    (plain : Store.Plain config.tablePrefix) (free : Store.Sink.isReserved config.tablePrefix = false) : ¬ SetupFails fs root address config := by
  cases here : Store.connect fs address with
  | error error => simp [here, Except.toOption] at connected
  | ok opened =>
    exact SetupFails.begins (Option.isSome_iff_ne_none.mp listed) here (by simpa [here, Except.toOption] using connected)
      fun _ => Store.creatable_plain plain free

def emptyNotice (root : Export.Path) : String := s!"[yellow]No files found in {root}"

/-- The root holds no files, and its name cannot be shown. -/
def NoticeBreaks (fs : Export.FileSystem) (root : Export.Path) : Prop :=
  Export.discover fs root = .ok [] ∧ ∃ error, print (emptyNotice root) = .error error

/-- A root whose name has no brackets and backslashes can be shown. -/
theorem print_emptyNotice {root : Export.Path} (bare : Bare root.toString.toList) :
    ∃ shown, print (emptyNotice root) = .ok shown := by
  have yellow : Style "yellow".toList := style_of_letters rfl (by decide)
  refine print_styled_bare yellow ("No files found in ".toList ++ root.toString.toList) ?_
    (bare_append (by decide) bare)
  change ("[yellow]No files found in " ++ root.toString).toList = _
  simp

theorem print_verdict (s : Summary) : ∃ shown, print (verdict s) = .ok shown := by
  have yellow : Style "yellow".toList := style_of_letters rfl (by decide)
  have green : Style "green".toList := style_of_letters rfl (by decide)
  unfold verdict
  split
  · exact print_styled_bare yellow "Migration was stopped before every file was submitted.".toList
      (by decide) (by decide)
  · split
    · exact print_styled_bare green "✓ Migration complete".toList (by decide) (by decide)
    · have count := bare_append (bare_append (show Bare "Completed with ".toList by decide)
        (bare_toString s.errors.length)) (show Bare " errors.".toList by decide)
      refine print_styled_bare yellow _ ?_ count
      change ("[yellow]Completed with " ++ toString s.errors.length ++ " errors.").toList = _
      simp

theorem tellReports_ok (files : Nat) (reports : List Report) : ∃ told, tellReports files reports = .ok told := by
  have walk (l : Listing) : ∃ last,
      reports.foldlM (fun (l : Listing) r => l.report r.name (r.errors.map (·.message))) l = .ok last := by
    induction reports generalizing l with
    | nil => exact ⟨l, rfl⟩
    | cons report rest ih =>
      obtain ⟨next, done⟩ := l.report_ok report.name (report.errors.map (·.message))
      obtain ⟨last, later⟩ := ih next
      exact ⟨last, by rw [List.foldlM_cons, done]; exact later⟩
  obtain ⟨last, done⟩ := walk { goal := files }
  exact ⟨last.lines, by rw [tellReports, done]; rfl⟩

theorem resultOf_run {σ : Type} (target : Target σ) (sink : σ) (fallback : Int) (files : List SourceFile) :
    Job.resultOf (target.run sink fallback files .never) = .ok (target.account sink fallback files) := by
  rw [Job.resultOf, Target.run_summary]
  rfl

/-- A migration into a database has a summary, unless the tables are to be created and cannot be. -/
theorem fill_result (job : Job) (whole : job.halt = .never) (db : Store.Database) (files : List SourceFile) :
    (∃ summary, (job.fill db files).result = .ok summary) ↔
      (job.config.append = false → Store.Creatable db job.config.tablePrefix) := by
  unfold Job.fill Store.Creatable
  cases append : job.config.append with
  | true =>
    simp only [↓reduceIte, whole, resultOf_run]
    exact ⟨fun _ => nofun, fun _ => ⟨_, rfl⟩⟩
  | false =>
    simp only [Bool.false_eq_true, ↓reduceIte, whole, resultOf_run, forall_const]
    cases (Store.Sink.connect db job.config.tablePrefix).provision.1 with
    | ok => exact ⟨fun _ => rfl, fun _ => ⟨_, rfl⟩⟩
    | error error => simp

theorem discover_error_iff {fs : Export.FileSystem} {root : Export.Path} :
    (∃ error, Export.discover fs root = .error error) ↔ fs.listing? root = none := by
  unfold Export.discover
  cases fs.listing? root <;> simp

section Migration

variable {fs : Export.FileSystem} {root : Export.Path} (address : String) (config : Config)

/-- A migration of files that were found has a summary, unless its setup fails. -/
theorem migrate_result (listed : fs.listing? root ≠ none) (paths : List Export.Path) :
    (∃ summary, (({ root, address, config, files := some paths } : Job).migrate fs).result = .ok summary) ↔
      ¬ SetupFails fs root address config := by
  unfold Job.migrate Job.paths
  cases connected : Store.connect fs address with
  | error error => simpa using SetupFails.unconnected connected
  | ok opened =>
    cases medium : opened.medium with
    | database db =>
      simp only [medium, Job.into, fill_result]
      refine ⟨SetupFails.begins listed connected medium, fun begins anew => ?_⟩
      by_contra refused
      exact begins (.unprovisioned connected anew medium refused)
    | garbage =>
      cases append : config.append with
      | true =>
        simp only [medium, ↓reduceIte, resultOf_run]
        refine ⟨?_, fun _ => ⟨_, rfl⟩⟩
        rintro - (none | failed | ⟨-, anew, -⟩ | ⟨-, anew, -, -⟩)
        · exact listed none
        · cases connected.symm.trans failed
        · cases append.symm.trans anew
        · cases append.symm.trans anew
      | false =>
        simpa [medium, append] using SetupFails.garbage connected append medium

end Migration

theorem exitCode_ending (code : Nat) (lines : List String) {text : String} (shows : ∃ shown, print text = .ok shown) :
    ∃ shown, print text = .ok shown ∧ Reply.ending code lines text = { exitCode := code, lines := lines ++ shown } := by
  obtain ⟨shown, done⟩ := shows
  exact ⟨shown, done, by rw [Reply.ending, done]⟩

/-- An error ends the command with exit code 1, whether or not its message can be shown. -/
theorem exitCode_ending_error (lines : List String) (text : String) : (Reply.ending 1 lines text).exitCode = 1 := by
  unfold Reply.ending
  split <;> rfl

theorem exitCode_migrateReply_error (world : World) (lines : List String) {done : Migrated} {error : MigrationError}
    (failed : done.result = .error error) : (migrateReply world lines done).exitCode = 1 := by
  unfold migrateReply
  rw [failed]
  cases error with
  | connect error =>
    dsimp only [Reply.unconnected]
    split
    · exact exitCode_ending_error _ _
    · rfl
  | interrupted => rfl
  | setup | provision | garbage => exact exitCode_ending_error _ _

/-- A migration with a summary prints it, and exits with 0. -/
structure Ends (world : World) (reply : Reply) (summary : Summary) : Prop where
  exitCode : reply.exitCode = 0
  unbroken : reply.broken = none
  told : ∃ before after, print (verdict summary) = .ok after ∧
    reply.lines = before ++ (summaryTable world summary).lines ++ after

theorem ends_migrateReply (world : World) (lines : List String) {done : Migrated} {summary : Summary}
    (complete : done.result = .ok summary) : Ends world (migrateReply world lines done) summary := by
  obtain ⟨shown, printed, ending⟩ :=
    exitCode_ending 0 (lines ++ (summaryTable world summary).lines) (print_verdict summary)
  have reply : migrateReply world lines done =
      Reply.ending 0 (lines ++ (summaryTable world summary).lines) (verdict summary) := by
    rw [migrateReply, complete]
  rw [reply, ending]
  exact ⟨rfl, rfl, lines, shown, printed, rfl⟩

/-- The migration a command stands for, of the files it found. -/
def commandJob (root : Export.Path) (address : String) (config : Config) (files : List Export.PageFile) : Job :=
  { root, address, config, files := some (files.map (·.path)) }

section Command

variable {world : World} (root address : String) {options : Options} {config : Config}
  (valid : options.config world.settings = .ok config)

include valid

theorem runMigration_unlisted {error : Export.SetupError}
    (unlisted : Export.discover world.fs (.ofString root) = .error error) :
    (runMigration world root address options).1.exitCode = 1 := by
  simp only [runMigration, valid, unlisted]
  exact exitCode_ending_error _ _

theorem runMigration_unnoticed (breaks : NoticeBreaks world.fs (.ofString root)) :
    (runMigration world root address options).1.exitCode = 1 := by
  obtain ⟨none, error, failed⟩ := breaks
  unfold emptyNotice at failed
  simp only [runMigration, valid, none, List.isEmpty_nil, ↓reduceIte, failed, Reply.breakOff]

/-- Nothing that is told of the files keeps the command from replying to what came of the migration. -/
theorem runMigration_reply {files : List Export.PageFile}
    (found : Export.discover world.fs (.ofString root) = .ok files)
    (shows : ¬ NoticeBreaks world.fs (.ofString root)) :
    ∃ lines, (runMigration world root address options).1 =
      migrateReply world lines ((commandJob (.ofString root) address config files).migrate world.fs) := by
  obtain ⟨notice, noticed⟩ : ∃ notice, (if files.isEmpty then print (emptyNotice (.ofString root)) else .ok []) =
      .ok notice := by
    cases files with
    | cons first rest => exact ⟨[], rfl⟩
    | nil =>
      cases printed : print (emptyNotice (.ofString root)) with
      | ok shown => exact ⟨shown, rfl⟩
      | error error => exact absurd ⟨found, error, printed⟩ shows
  obtain ⟨told, telling⟩ := tellReports_ok files.length
    ((commandJob (.ofString root) address config files).migrate world.fs).reports
  unfold emptyNotice at noticed
  unfold commandJob at telling
  exact ⟨notice ++ told, by simp only [runMigration, valid, found, noticed, telling, commandJob]⟩

/-- The two ways a migration from the command line goes. -/
theorem runMigration_ends :
    ((SetupFails world.fs (.ofString root) address config ∨ NoticeBreaks world.fs (.ofString root)) ∧
      (runMigration world root address options).1.exitCode = 1) ∨
    (¬ (SetupFails world.fs (.ofString root) address config ∨ NoticeBreaks world.fs (.ofString root)) ∧
      ∃ files summary, Export.discover world.fs (.ofString root) = .ok files ∧
        ((commandJob (.ofString root) address config files).migrate world.fs).result = .ok summary ∧
        Ends world (runMigration world root address options).1 summary) := by
  cases found : Export.discover world.fs (.ofString root) with
  | error error =>
    exact .inl ⟨.inl (.unlisted (discover_error_iff.mp ⟨error, found⟩)), runMigration_unlisted root address valid found⟩
  | ok files =>
    have listed : world.fs.listing? (.ofString root) ≠ none := by
      intro none
      obtain ⟨error, failed⟩ := discover_error_iff.mpr none
      cases found.symm.trans failed
    by_cases breaks : NoticeBreaks world.fs (.ofString root)
    · exact .inl ⟨.inr breaks, runMigration_unnoticed root address valid breaks⟩
    · obtain ⟨lines, reply⟩ := runMigration_reply root address valid found breaks
      have complete := migrate_result address config listed (files.map (·.path))
      rw [reply]
      cases result : ((commandJob (.ofString root) address config files).migrate world.fs).result with
      | ok summary =>
        exact .inr ⟨not_or.mpr ⟨complete.mp ⟨summary, result⟩, breaks⟩, files, summary, rfl, result,
          ends_migrateReply world lines result⟩
      | error error =>
        refine .inl ⟨.inl ?_, exitCode_migrateReply_error world lines result⟩
        by_contra begins
        obtain ⟨summary, done⟩ := complete.mpr begins
        cases result.symm.trans done

end Command

/-- An empty directory `bold]` below a directory `[`. -/
def closingWorld : World where
  fs := { root := [("[", .directory [("bold]", .directory [])])] }

end BoardMigration.CommandLine
