import BoardMigration.Proofs.Migration.Resume
import BoardMigration.Proofs.Page.Forums
import BoardMigration.Proofs.Run.Echo
import BoardMigration.Proofs.Run.Records
import BoardMigration.Proofs.Store.Again
import BoardMigration.Proofs.Store.Operations
import BoardMigration.Proofs.Store.Orderly

/-! Running a migration again over the rows that are there. Everything that was inserted is found again,
so a migration that was broken off ends like one that goes through, and one that went through changes
nothing more. -/
namespace BoardMigration

open Schema (Table)

theorem direct_subset (contents : Contents) : contents.direct ⊆ contents.records :=
  fun _ member => (List.mem_filter.mp member).1

/-- What a run inserts are posts or records of the files. -/
theorem mem_insertions {files : List SourceFile} {fallback : Int} {record : Record}
    (member : record ∈ insertions files fallback) :
    (∃ p, record = .post p) ∨ ∃ file ∈ files, record ∈ file.contents.records := by
  rcases List.mem_append.mp member with early | late
  · have routed := (Resolution.routeAll_eq (r := {}) rfl files).2.subset early
    rcases List.mem_append.mp routed with direct | resolved
    · obtain ⟨file, inside, here⟩ := List.mem_flatMap.mp direct
      exact .inr ⟨file, inside, direct_subset file.contents here⟩
    · obtain ⟨a, -, rfl⟩ := List.mem_map.mp resolved
      exact .inl ⟨a.resolved, rfl⟩
  · obtain ⟨p, rfl⟩ := mem_latePosts late
    exact .inl ⟨_, rfl⟩

namespace Store

variable {s t : Sink} {start : String}

namespace Sink

theorem Regular.insertAll (regular : s.Regular start) (records : List Record) :
    Advances start s (target.insertAll s records) := by
  induction records generalizing s with
  | nil => exact regular.still
  | cons record rest ih =>
    have first := regular.insert record
    exact first.trans (ih first.regular)

theorem Alike.insertAll (alike : Alike s t) (regular : s.Regular start) (other : t.Regular start)
    (records : List Record) : Alike (target.insertAll s records) (target.insertAll t records) := by
  induction records generalizing s t with
  | nil => exact alike
  | cons record rest ih =>
    exact ih (alike.insert regular other record).2 (regular.insert record).regular
      (other.insert record).regular

/-- Records that were inserted are not inserted again, and are answered as before. -/
theorem Regular.insertAll_again (regular : s.Regular start) (later : t.Regular start)
    {records : List Record} (lasting : ∀ record ∈ records, Lasting record)
    (grows : Grows start (target.insertAll s records) t) :
    Alike t (target.insertAll t records) ∧
      ((∀ record ∈ records, Steady record) → target.Echoes s t records) := by
  induction records generalizing s t with
  | nil => exact ⟨.refl t, fun _ => trivial⟩
  | cons record rest ih =>
    rw [List.forall_mem_cons] at lasting
    have first := regular.insert record
    have between : Grows start (s.insert record).2 t :=
      (first.regular.insertAll rest).grows.trans grows
    obtain ⟨still, answer⟩ := regular.insert_again later lasting.1 between
    have next := (later.insert record).regular
    obtain ⟨rest, echoes⟩ := ih first.regular next lasting.2 (grows.alike still)
    refine ⟨still.trans rest, fun steady => ?_⟩
    rw [List.forall_mem_cons] at steady
    refine ⟨?_, echoes steady.2⟩
    have same := answer steady.1
    change (t.insert record).1.mapError _ = ((s.insert record).1.mapError _).map _
    rw [same]
    cases (s.insert record).1 <;> rfl

theorem Regular.reopen (regular : s.Regular start) :
    let opened := connect s.close.database s.tablePrefix
    opened.Regular start ∧ Alike s opened := by
  refine ⟨⟨⟨rfl, regular.reads⟩, regular.tables, ?_⟩, regular.isOpen, rfl, fun _ => rfl⟩
  intro key n cached
  simp [connect, known?] at cached

/-- Records that a gateway was given before it was closed show in nothing when they are given again
before others. -/
theorem Regular.insertAll_replayed (regular : s.Regular start) {first : List Record}
    (lasting : ∀ record ∈ first, Lasting record) (rest : List Record) :
    let left := (target.insertAll s first).close.database
    Alike (target.insertAll s (first ++ rest))
      (target.insertAll (connect left s.tablePrefix) (first ++ rest)) := by
  intro left
  have advances := regular.insertAll first
  obtain ⟨opened, alike⟩ := advances.regular.reopen
  rw [advances.grows.tablePrefix] at opened alike
  obtain ⟨still, -⟩ := regular.insertAll_again opened lasting ((Grows.refl start _).alike alike)
  rw [Target.insertAll_append, Target.insertAll_append]
  exact (alike.trans still).insertAll advances.regular (opened.insertAll first).regular rest

end Sink

variable {db : Database} {tablePrefix : String}

theorem Worked.created (worked : Worked db) (creatable : Creatable db tablePrefix) :
    Worked (created db tablePrefix) := by
  have begun : Worked (Sink.connect db tablePrefix).database := worked
  have provisioned := begun.operation .provision
  have made : (Operation.provision.perform (Sink.connect db tablePrefix)).database =
      Store.created db tablePrefix := by
    rw [Operation.perform, creatable.provision]
    dsimp only [Sink.connect]
  rwa [made] at provisioned

/-- Databases in which every table reads the same. -/
def SameTables (first second : Database) : Prop := ∀ name, first.table? name = second.table? name

/-- What a run left that was broken off shows in nothing once the run is made again. -/
theorem run_broken_off (regular : (Sink.connect db tablePrefix).Regular start) (fallback : Int)
    (files : List SourceFile) (lasting : ∀ record ∈ earlyRecords files, Sink.Lasting record)
    {halt : Halt} (broken : halt.ending files.length = .aborted) :
    let left := (target.run (.connect db tablePrefix) fallback files halt).sink.database
    SameTables (target.run (.connect left tablePrefix) fallback files .never).sink.database
      (target.run (.connect db tablePrefix) fallback files .never).sink.database := by
  intro left
  have early : earlyRecords (halt.taken files) <+: earlyRecords files := by
    cases halt with
    | abortBefore k => exact earlyRecords_take files k
    | never => cases broken
    | atOnce => cases broken
    | stopBefore k =>
      simp only [Halt.ending] at broken
      split at broken <;> cases broken
  obtain ⟨rest, same⟩ := early
  have whole : insertions files fallback =
      earlyRecords (halt.taken files) ++ (rest ++ latePosts files fallback) := by
    rw [insertions, ← same, List.append_assoc]
  have replayed := regular.insertAll_replayed
    (fun record member => lasting record (same ▸ List.mem_append_left rest member))
    (rest ++ latePosts files fallback)
  rw [← whole] at replayed
  have cut : left = (target.insertAll (.connect db tablePrefix)
      (earlyRecords (halt.taken files))).close.database :=
    congrArg Sink.database (target.run_aborted _ _ _ _ broken)
  rw [target.run_sink _ _ _ _ (by simp [Halt.ending]), target.run_sink _ _ _ _ (by simp [Halt.ending]), cut]
  exact replayed.symm.tables

/-- Where no statement gets through, records are answered alike again and again. -/
theorem echoes_refused (mute : (Sink.connect db tablePrefix).Mute) (records : List Record) :
    target.insertAll (.connect db tablePrefix) records = .connect db tablePrefix ∧
      target.Echoes (.connect db tablePrefix) (.connect db tablePrefix) records := by
  induction records with
  | nil => exact ⟨rfl, trivial⟩
  | cons record rest ih =>
    obtain ⟨error, refused⟩ := mute.insert record
    have answer : (target.insert (.connect db tablePrefix) record).1 = .error error.toFault := by
      simp [target, refused, Except.mapError]
    have still : (target.insert (.connect db tablePrefix) record).2 = .connect db tablePrefix := by
      simp [target, refused]
    obtain ⟨same, echoes⟩ := ih
    refine ⟨?_, ?_, ?_⟩
    · rwa [Target.insertAll, List.foldl_cons, still]
    · rw [answer]
      rfl
    · rwa [still]

/-- A run over what a run left changes no table, and its summary repeats the first. -/
theorem run_repeated (worked : Worked db) (quoted : (∃ start, (Sink.connect db tablePrefix).Serves start) ∨
      (Sink.connect db tablePrefix).Mute) (fallback : Int) (files : List SourceFile)
    (lasting : ∀ record ∈ insertions files fallback, Sink.Lasting record)
    (steady : ∀ record ∈ insertions files fallback, Sink.Steady record) :
    let left := (target.run (.connect db tablePrefix) fallback files .never).sink.database
    SameTables (target.run (.connect left tablePrefix) fallback files .never).sink.database left ∧
      (target.account (.connect left tablePrefix) fallback files).Repeats
        (target.account (.connect db tablePrefix) fallback files) := by
  intro left
  have ends (db : Database) : (target.run (.connect db tablePrefix) fallback files .never).sink.database =
      (target.insertAll (.connect db tablePrefix) (insertions files fallback)).close.database :=
    congrArg Sink.database (target.run_sink _ _ _ _ (by simp [Halt.ending]))
  have leftEq := ends db
  rw [ends left]
  rcases quoted with ⟨start, serves⟩ | mute
  · have regular := worked.regular serves
    have advances := regular.insertAll (insertions files fallback)
    obtain ⟨opened, alike⟩ := advances.regular.reopen
    rw [advances.grows.tablePrefix, ← leftEq] at opened alike
    obtain ⟨still, echoes⟩ :=
      regular.insertAll_again opened lasting ((Sink.Grows.refl start _).alike alike)
    exact ⟨fun name => (still.tables name).symm, Target.account_echo fallback files (echoes steady)⟩
  · obtain ⟨same, echoes⟩ := echoes_refused mute (insertions files fallback)
    rw [same] at leftEq
    have unchanged : left = db := leftEq
    rw [unchanged, same]
    exact ⟨fun _ => rfl, Target.account_echo fallback files echoes⟩

end Store

namespace Job

variable (job : Job) (fs : Export.FileSystem) (paths : List Export.Path) (db : Store.Database)

theorem listed_of_sources {file : SourceFile} (member : file ∈ job.sources fs paths) {f : Forum}
    (found : Record.forum f ∈ file.contents.records) :
    ∃ path ∈ paths, ∃ page, fs.file? path = some page ∧ Page.Listed page.bytes.length f := by
  obtain ⟨path, inside, rfl⟩ := List.mem_map.mp member
  simp only [source] at found
  split at found
  · next page there =>
    refine ⟨path, inside, page, there, ?_⟩
    unfold Contents.ofPage at found
    split at found
    · next items read =>
      obtain ⟨item, among, same⟩ := List.mem_filterMap.mp found
      cases item with
      | malformed error => cases same
      | record record =>
        obtain rfl := Option.some.inj same
        exact Page.allListed_extract read f among
    all_goals cases found
  · cases found

theorem lasting_of_insertions {fallback : Int} {record : Record}
    (member : record ∈ insertions (job.sources fs paths) fallback) : Store.Sink.Lasting record := by
  rcases mem_insertions member with ⟨p, rfl⟩ | ⟨file, inside, found⟩
  · trivial
  · cases record with
    | forum f =>
      obtain ⟨_, -, _, -, listed⟩ := job.listed_of_sources fs paths inside found
      exact listed.named
    | _ => trivial

/-- Files have sizes of 64 bits, so positions in them do. -/
theorem modest_of_listed {rows : Nat} {f : Forum} (listed : Page.Listed rows f)
    (small : (rows : Int) ≤ Store.maxInt) (redirect : f.redirect ≠ none) : Store.Sink.modest f = true := by
  obtain ⟨topics, posts, lastPosted, lastPost⟩ := listed.empty redirect
  obtain ⟨i, bound, position⟩ := listed.position
  have inside : Store.Value.fits (.int i) = true := by
    rw [Store.Value.fits_int, Store.minInt]
    omega
  have zero : Store.Value.fits (.int 0) = true := by decide
  have null : Store.Value.fits .null = true := rfl
  simp [Store.Sink.modest, Record.row, Store.Row.fits, Value.ofInt?, topics, posts, lastPosted, lastPost,
    position, inside, zero, null]

theorem steady_of_insertions {fallback : Int}
    (small : ∀ path ∈ paths, ∀ page, fs.file? path = some page → (page.bytes.length : Int) ≤ Store.maxInt)
    {record : Record} (member : record ∈ insertions (job.sources fs paths) fallback) :
    Store.Sink.Steady record := by
  rcases mem_insertions member with ⟨p, rfl⟩ | ⟨file, inside, found⟩
  · trivial
  · cases record with
    | forum f =>
      obtain ⟨path, named, page, there, listed⟩ := job.listed_of_sources fs paths inside found
      exact modest_of_listed listed (small path named page there)
    | _ => trivial

end Job

namespace Job

variable (job : Job) (fs : Export.FileSystem) (paths : List Export.Path) (db : Store.Database)

theorem again_completes (files : List SourceFile) :
    (job.again.fill db files).result = .ok (Store.target.account (.connect db job.config.tablePrefix)
      job.config.fallbackTopic files) := by
  change resultOf (Store.target.run (.connect db job.config.tablePrefix) job.config.fallbackTopic files
    .never) = _
  rw [resultOf, Target.run_summary]
  rfl

/-- A migration that is broken off and then run again over what it left ends like one that goes
through: the tables are the same, with every number the gateway gave. -/
theorem fill_broken_off (k : Nat)
    (broken : ((job.afresh (.abortBefore k)).fill db (job.sources fs paths)).result =
      .error .interrupted) :
    let files := job.sources fs paths
    let left := ((job.afresh (.abortBefore k)).fill db files).database
    let resumed := job.again.fill left files
    let whole := (job.afresh .never).fill db files
    (∃ summary, resumed.result = .ok summary) ∧ (∃ summary, whole.result = .ok summary) ∧
      Store.SameTables resumed.database whole.database := by
  intro files left resumed whole
  have creatable := job.creatable_of_begun db files fun _ refused =>
    absurd (broken.symm.trans refused) (by simp)
  obtain ⟨start, regular⟩ := creatable.regular
  obtain ⟨leftEq, brokenEq⟩ := job.fill_afresh db files (.abortBefore k) creatable
  obtain ⟨wholeEq, completeEq⟩ := job.fill_afresh db files .never creatable
  have ending : (Halt.abortBefore k).ending files.length = .aborted := by
    by_contra unbroken
    rw [brokenEq, resultOf, Target.run_eq _ _ _ _ _ unbroken] at broken
    cases broken
  refine ⟨⟨_, job.again_completes left files⟩, ?_, ?_⟩
  · rw [completeEq, resultOf, Target.run_summary]
    exact ⟨_, rfl⟩
  · have lasting : ∀ record ∈ earlyRecords files, Store.Sink.Lasting record := fun record member =>
      job.lasting_of_insertions fs paths (List.mem_append_left (latePosts files 0) member)
    have same := Store.run_broken_off regular job.config.fallbackTopic files lasting ending
    rw [← leftEq, ← wholeEq] at same
    exact same

/-- The index is read with its redirect, the page of a forum is not. -/
theorem fill_broken_off_index :
    let job : Job := {
      root := .ofString "export", address := "sqlite:board.db"
      config := ⟨some 1, 16, false, "%Y-%m-%d", "old_", 0⟩ }
    let fs : Export.FileSystem := ⟨[("export", .directory [
      ("index.html", .file ("<div class=pun id=punindex><div class=blocktable><h2>News</h2><table>" ++
        "<tr class=iredirect><td class=tclcon><h3><a href=wiki>Wiki</a></h3></td></tr>" ++
        "</table></div></div>").toUTF8.toList),
      ("forum.html", .file "<div class=pun id=punviewforum></div>".toUTF8.toList)])], []⟩
    let files := job.sources fs [.ofString "export/index.html", .ofString "export/forum.html"]
    let left := ((job.afresh (.abortBefore 1)).fill {} files).database
    let resumed := job.again.fill left files
    let whole := (job.afresh .never).fill {} files
    ((job.afresh (.abortBefore 1)).fill {} files).result = .error .interrupted ∧
    (∃ summary, resumed.result = .ok summary) ∧ (∃ summary, whole.result = .ok summary) ∧
      Store.SameTables resumed.database whole.database := by
  intro job fs files left resumed whole
  have creatable : Store.Creatable {} "old_" :=
    Store.creatable_plain (by decide +kernel) (by decide +kernel)
  have broken : ((job.afresh (.abortBefore 1)).fill {} files).result = .error .interrupted := by
    have ending : (Halt.abortBefore 1).ending files.length = .aborted := rfl
    rw [(job.fill_afresh {} files (.abortBefore 1) creatable).2, resultOf]
    simp only [Target.run, ending, Option.elim_none]
  exact ⟨broken, job.fill_broken_off fs _ {} 1 broken⟩

/-- A migration that does not fail is a run on a database that gateways have worked on, if the first one was. New
tables show that the prefix keeps to its quotes. -/
theorem fill_started {files : List SourceFile} {summary : Summary}
    (done : (job.fill db files).result = .ok summary)
    (enclosed : job.config.append = true → Store.Enclosed job.config.tablePrefix) :
    ∃ made, (Store.Worked db → Store.Worked made) ∧
      ((∃ start, (Store.Sink.connect made job.config.tablePrefix).Serves start) ∨
        (Store.Sink.connect made job.config.tablePrefix).Mute) ∧
      let run := Store.target.run (.connect made job.config.tablePrefix) job.config.fallbackTopic files
        job.halt
      (job.fill db files).database = run.sink.database ∧ run.summary = some summary := by
  have ends {σ : Type} {run : Completed σ} (same : resultOf run = .ok summary) :
      run.summary = some summary := by
    cases kind : run.summary with
    | none => simp [resultOf, kind] at same
    | some other => simpa [resultOf, kind] using same
  cases appended : job.config.append with
  | true =>
    refine ⟨db, id, Store.Sink.serves_or_refuses db (enclosed appended), ?_⟩
    have whole : job.fill db files = (
        let run := Store.target.run (.connect db job.config.tablePrefix) job.config.fallbackTopic files
          job.halt
        { database := run.sink.database, reports := run.reports, result := resultOf run }) := by
      simp [fill, appended]
    rw [whole] at done ⊢
    exact ⟨rfl, ends done⟩
  | false =>
    have same : job.afresh job.halt = job := by
      rw [afresh, ← appended]
    rw [← same] at done ⊢
    have creatable := job.creatable_of_fill db files done
    obtain ⟨databaseEq, resultEq⟩ := job.fill_afresh db files job.halt creatable
    obtain ⟨start, serves, -⟩ := creatable.names (Store.created db job.config.tablePrefix)
    exact ⟨_, fun worked => worked.created creatable, .inl ⟨start, serves⟩, databaseEq, ends (resultEq ▸ done)⟩

/-- A migration that went through and is then run again over what it left changes no table. It counts
all that was written as present, and tells the same of the rest. -/
theorem fill_repeated (worked : Store.Worked db)
    (enclosed : job.config.append = true → Store.Enclosed job.config.tablePrefix)
    (small : ∀ path ∈ paths, ∀ page, fs.file? path = some page → (page.bytes.length : Int) ≤ Store.maxInt)
    {summary : Summary} (done : (job.fill db (job.sources fs paths)).result = .ok summary)
    (whole : summary.stopped = false) :
    let files := job.sources fs paths
    let left := (job.fill db files).database
    let repeated := job.again.fill left files
    (∃ again, repeated.result = .ok again ∧ again.Repeats summary) ∧
      Store.SameTables repeated.database left := by
  intro files left repeated
  obtain ⟨made, kept, quoted, leftEq, ended⟩ := job.fill_started db done enclosed
  have complete := Store.target.run_complete ended whole
  rw [complete] at leftEq ended
  rw [Target.run_summary] at ended
  obtain ⟨same, repeats⟩ := Store.run_repeated (kept worked) quoted job.config.fallbackTopic files
    (fun record => job.lasting_of_insertions fs paths) (fun record => job.steady_of_insertions fs paths small)
  rw [← leftEq] at same repeats
  rw [Option.some.inj ended] at repeats
  exact ⟨⟨_, job.again_completes left files, repeats⟩, same⟩

/-- The redirect of an index is there when the index is read again. -/
theorem fill_repeated_index :
    let job : Job := {
      root := .ofString "export", address := "sqlite:board.db"
      config := ⟨some 1, 16, false, "%Y-%m-%d", "old_", 0⟩ }
    let page := "<div class=pun id=punindex><div class=blocktable><h2>News</h2><table>" ++
      "<tr class=iredirect><td class=tclcon><h3><a href=wiki>Wiki</a></h3></td></tr>" ++
      "</table></div></div>"
    let fs : Export.FileSystem := ⟨[("index.html", .file page.toUTF8.toList)], []⟩
    let paths : List Export.Path := [⟨false, ["index.html"]⟩]
    let files := job.sources fs paths
    let left := (job.fill {} files).database
    let repeated := job.again.fill left files
    Store.Worked {} ∧ (job.config.append = true → Store.Enclosed job.config.tablePrefix) ∧
    (∀ path ∈ paths, ∀ page, fs.file? path = some page → (page.bytes.length : Int) ≤ Store.maxInt) ∧
    ∃ summary, (job.fill {} files).result = .ok summary ∧ summary.stopped = false ∧
      (∃ again, repeated.result = .ok again ∧ again.Repeats summary) ∧
      Store.SameTables repeated.database left := by
  intro job page fs paths files left repeated
  have creatable : Store.Creatable {} "old_" :=
    Store.creatable_plain (by decide +kernel) (by decide +kernel)
  have done := (job.fill_afresh {} files .never creatable).2
  rw [resultOf, Target.run_summary] at done
  have small : ∀ path ∈ paths, ∀ page, fs.file? path = some page → (page.bytes.length : Int) ≤ Store.maxInt := by
    intro path member found there
    obtain rfl := List.mem_singleton.mp member
    have file : fs.file? ⟨false, ["index.html"]⟩ =
        some ⟨⟨false, ["index.html"]⟩, page.toUTF8.toList.length, page.toUTF8.toList⟩ := rfl
    obtain rfl := Option.some.inj (file.symm.trans there)
    decide +kernel
  exact ⟨.new, nofun, small, _, done, rfl, job.fill_repeated fs paths {} .new nofun small done rfl⟩

/-- A prefix that closes its quote can bring the columns of a post in an order of its own. With the number in the place
of the time of an edit the post is given another one in each run. -/
theorem fill_repeated_columns :
    let job : Job := {
      root := .ofString "export", address := "sqlite:board.db"
      config := ⟨some 1, 16, true, "%Y-%m-%d",
        "posts\" (\"edited\", \"poster\", \"poster_id\", \"message\", \"hide_smilies\", \"posted\", \"id\", " ++
          "\"edited_by\", \"topic_id\") VALUES (?,?,?,?,?,?,?,?,?)--", 0⟩ }
    let files : List SourceFile := [⟨"topic.html", .items [
      .record (.post { id := 41, poster := "Guest", message := "Hello", topic := some 7 })]⟩]
    let db := (Store.Operation.provision.perform (.connect {} "")).database
    let left := (job.fill db files).database
    let repeated := job.again.fill left files
    Store.Worked db ∧ (∃ summary, (job.fill db files).result = .ok summary ∧ summary.stopped = false) ∧
    (∃ again, repeated.result = .ok again ∧ again.written = 1) ∧ ¬Store.SameTables repeated.database left := by
  intro job files db left repeated
  have begun : Store.Worked (Store.Sink.connect {} "").database := .new
  obtain ⟨ended, again, one, two⟩ : (job.fill db files).result.toOption.map (·.stopped) = some false ∧
      repeated.result.toOption.map (·.written) = some 1 ∧
      (left.table? "posts").map (·.rows.length) = some 1 ∧
      (repeated.database.table? "posts").map (·.rows.length) = some 2 := by decide +kernel
  have told {answer : Except MigrationError Summary} {α : Type} {f : Summary → α} {value : α}
      (found : answer.toOption.map f = some value) : ∃ summary, answer = .ok summary ∧ f summary = value := by
    cases answer with
    | error error => cases found
    | ok summary => exact ⟨summary, rfl, Option.some.inj found⟩
  refine ⟨begun.operation .provision, told ended, told again, fun same => ?_⟩
  rw [same "posts", one] at two
  cases two

end Job
end BoardMigration
