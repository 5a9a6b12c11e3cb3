import BoardMigration.Proofs.Migration.Rerun
import BoardMigration.Proofs.Run.Simulation
import BoardMigration.Proofs.Store.Part

/-! Migrations with new tables. Whatever was done to a database before, a migration that creates its tables
anew ends there like in any other: with the same rows under the same numbers, and with the same told. -/
namespace BoardMigration

open Schema (Table)

namespace Store

theorem Worked.insertAll {s : Sink} (worked : Worked s.database) (records : List Record) :
    Worked (target.insertAll s records).database := by
  induction records generalizing s with
  | nil => exact worked
  | cons record rest ih => exact ih (worked.operation (.insert record))

theorem Worked.run {s : Sink} (worked : Worked s.database) (fallback : Int) (files : List SourceFile)
    (halt : Halt) : Worked (target.run s fallback files halt).sink.database := by
  by_cases broken : halt.ending files.length = .aborted
  · rw [target.run_aborted _ _ _ _ broken]
    exact (worked.insertAll _).operation .close
  · rw [target.run_sink _ _ _ _ broken]
    exact (worked.insertAll _).operation .close

theorem Worked.fill {db : Database} (worked : Worked db) (job : Job) (files : List SourceFile) :
    Worked (job.fill db files).database := by
  have begun : Worked (Sink.connect db job.config.tablePrefix).database := worked
  have provisioned := begun.operation .provision
  rw [Operation.perform] at provisioned
  unfold Job.fill
  cases appended : job.config.append with
  | true => exact begun.run _ files job.halt
  | false =>
    dsimp only
    generalize (Sink.connect db job.config.tablePrefix).provision = attempt at provisioned
    obtain ⟨answer, sink⟩ := attempt
    cases answer with
    | error fault => exact provisioned
    | ok _ => exact provisioned.run _ files job.halt

/-- Gateways that are the same in the part of their tables. -/
structure Coincide (own : String → Bool) (s t : Sink) : Prop where
  inside : Sink.Inside own s.tablePrefix
  same : s.part own = t.part own

namespace Coincide

variable {own : String → Bool} {s t : Sink}

theorem insert (coincide : Coincide own s t) (record : Record) :
    Sink.toPart own (s.insert record) = Sink.toPart own (t.insert record) := by
  have prefixes := congrArg Sink.tablePrefix coincide.same
  have other : Sink.Inside own t.tablePrefix := by
    rw [← show s.tablePrefix = t.tablePrefix from prefixes]
    exact coincide.inside
  rw [← Sink.insert_part coincide.inside, ← Sink.insert_part other, coincide.same]

theorem answer (coincide : Coincide own s t) (record : Record) :
    (s.insert record).1 = (t.insert record).1 := by
  have answers := congrArg Prod.fst (coincide.insert record)
  exact answers

theorem simulates (own : String → Bool) : target.Simulates target (Coincide own) where
  answer := fun coincide record =>
    congrArg (Except.mapError StoreError.toFault) (coincide.answer record)
  insert := fun {s t} coincide record => by
    refine ⟨?_, congrArg Prod.snd (coincide.insert record)⟩
    have kept := (s.receives_insert record).tablePrefix
    change Sink.Inside own (s.insert record).2.tablePrefix
    rw [kept]
    exact coincide.inside
  close := fun coincide => ⟨coincide.inside, congrArg Sink.close coincide.same⟩

theorem insertAll (coincide : Coincide own s t) (records : List Record) :
    Coincide own (target.insertAll s records) (target.insertAll t records) := by
  induction records generalizing s t with
  | nil => exact coincide
  | cons record rest ih => exact ih ((simulates own).insert coincide record)

theorem database (coincide : Coincide own s t) : s.database.part own = t.database.part own :=
  congrArg Sink.database coincide.same

theorem table? (coincide : Coincide own s t) {name : String} (owned : own (foldName name) = true) :
    s.database.table? name = t.database.table? name := by
  rw [← Database.table?_part owned, coincide.database, Database.table?_part owned]

end Coincide

namespace Plain

variable {tablePrefix : String} (plain : Plain tablePrefix) (free : Sink.isReserved tablePrefix = false)
  (db : Database)

include plain

theorem fullName {name : String} (known : name ∈ Table.names) :
    (Sink.connect db tablePrefix).fullName name = tablePrefix ++ name := by
  have resolved : Store.resolveName (Sink.connect db tablePrefix).tablePrefix .write name = _ :=
    plain.resolveName (wordy_of_known known) .write
  rw [Sink.fullName, resolved]

/-- In its part a new board is the same in all databases. -/
theorem created_part : (created db tablePrefix).part (ownedBy tablePrefix) = created {} tablePrefix := by
  apply Database.provision_anew
  · intro name known
    rw [plain.fullName db known]
    exact ownedBy_of_known tablePrefix known
  · intro title owned
    obtain ⟨name, known, same⟩ := ownedBy_iff.mp owned
    exact ⟨name, known, by rw [plain.fullName db known, same]⟩

theorem coincide (other : Database) : Coincide (ownedBy tablePrefix)
    (.connect (created db tablePrefix) tablePrefix) (.connect (created other tablePrefix) tablePrefix) where
  inside := plain.inside
  same := by
    have one := plain.created_part db
    have another := plain.created_part other
    generalize created db tablePrefix = first at one
    generalize created other tablePrefix = second at another
    simp only [Sink.part, Sink.connect, one, another]

include free

/-- All tables of a new board are there, and stay whatever is inserted. -/
theorem table?_insertAll (records : List Record) {shape : Table} (member : shape ∈ Table.all) :
    ∃ t, (target.insertAll (.connect (created db tablePrefix) tablePrefix) records).database.table?
      (tablePrefix ++ shape.name) = some t ∧ t.shape = shape := by
  have creatable : Creatable db tablePrefix := creatable_plain plain free
  obtain ⟨start, regular⟩ := creatable.regular
  obtain ⟨begin, serves, tables⟩ := creatable.tables
  have there := tables shape member
  have shaped := (Database.seeded_shape (Sink.connect {} tablePrefix).fullName shape).1
  generalize Database.seeded (Sink.connect {} tablePrefix).fullName shape = t at there shaped
  generalize created db tablePrefix = made at *
  obtain rfl := serves.start_unique (plain.serves made)
  obtain rfl := regular.toServes.start_unique (plain.serves made)
  obtain ⟨more, here, extends_⟩ :=
    (regular.insertAll records).grows.tables shape.name (Database.name_mem_names member) t there
  exact ⟨more, here, extends_.shape.trans shaped⟩

end Plain

end Store

namespace Job

variable (job : Job)

/-- Databases in which a migration with new tables comes out alike. -/
structure ComesOutAlike (first second : Store.Database) (files : List SourceFile) : Prop where
  /-- It goes through, with the same counts and errors. -/
  result : ∃ summary, ((job.afresh .never).fill first files).result = .ok summary ∧
    ((job.afresh .never).fill second files).result = .ok summary
  reports : ((job.afresh .never).fill first files).reports =
    ((job.afresh .never).fill second files).reports
  /-- All tables are there, with the same rows. -/
  tables : ∀ shape ∈ Table.all, ∃ t, t.shape = shape ∧
    ((job.afresh .never).fill first files).database.table? (job.config.tablePrefix ++ shape.name) = some t ∧
    ((job.afresh .never).fill second files).database.table? (job.config.tablePrefix ++ shape.name) = some t
  /-- So are their indexes. -/
  part : ((job.afresh .never).fill first files).database.part (Store.ownedBy job.config.tablePrefix) =
    ((job.afresh .never).fill second files).database.part (Store.ownedBy job.config.tablePrefix)
  /-- Records that come in any other order, as from several workers, are answered alike too. -/
  orders : ∀ (records : List Record) (record : Record),
    let board (db : Store.Database) :=
      Store.Sink.connect (Store.created db job.config.tablePrefix) job.config.tablePrefix
    ((Store.target.insertAll (board first) records).insert record).1 =
      ((Store.target.insertAll (board second) records).insert record).1 ∧
    (Store.target.insertAll (board first) records).database.part
        (Store.ownedBy job.config.tablePrefix) =
      (Store.target.insertAll (board second) records).database.part
        (Store.ownedBy job.config.tablePrefix)
  /-- No table and no index is created under a name that is taken. -/
  distinct : (Store.created first job.config.tablePrefix).titles.Nodup ∧
    (Store.created second job.config.tablePrefix).titles.Nodup

theorem fill_afresh_eq (db : Store.Database) (files : List SourceFile) (halt : Halt)
    (creatable : Store.Creatable db job.config.tablePrefix) :
    (job.afresh halt).fill db files =
      let run := Store.target.run
        (.connect (Store.created db job.config.tablePrefix) job.config.tablePrefix)
        job.config.fallbackTopic files halt
      { database := run.sink.database, reports := run.reports, result := resultOf run } := by
  simp [fill, afresh, creatable.provision]

theorem afresh_completes (db : Store.Database) (files : List SourceFile)
    (creatable : Store.Creatable db job.config.tablePrefix) :
    ((job.afresh .never).fill db files).result = .ok (Store.target.account
      (.connect (Store.created db job.config.tablePrefix) job.config.tablePrefix)
      job.config.fallbackTopic files) := by
  rw [(job.fill_afresh db files .never creatable).2, resultOf, Target.run_summary]
  rfl

/-- A migration with new tables comes out alike in all databases that gateways have worked on. -/
theorem fill_comes_out_alike {first second : Store.Database} (one : Store.Worked first)
    (other : Store.Worked second) (plain : Store.Plain job.config.tablePrefix)
    (free : Store.Sink.isReserved job.config.tablePrefix = false) (files : List SourceFile) :
    job.ComesOutAlike first second files := by
  have creatable (db : Store.Database) : Store.Creatable db job.config.tablePrefix :=
    Store.creatable_plain plain free
  have distinct := And.intro (one.created (creatable first)).titled.distinct
    (other.created (creatable second)).titled.distinct
  have coincide := plain.coincide first second
  have simulates := Store.Coincide.simulates (Store.ownedBy job.config.tablePrefix)
  obtain ⟨reports, summary, last⟩ := simulates.run coincide job.config.fallbackTopic files .never
  have left := job.fill_afresh_eq first files .never (creatable first)
  have right := job.fill_afresh_eq second files .never (creatable second)
  rw [Target.run_summary, Target.run_summary] at summary
  refine ⟨?_, ?_, ?_, ?_, ?_, distinct⟩
  · refine ⟨_, job.afresh_completes first files (creatable first), ?_⟩
    rw [job.afresh_completes second files (creatable second), Option.some.inj summary]
  · rw [left, right]
    exact reports
  · intro shape member
    obtain ⟨t, there, shaped⟩ := plain.table?_insertAll free first
      (insertions files job.config.fallbackTopic) member
    have owned := Store.ownedBy_of_known job.config.tablePrefix (Store.Database.name_mem_names member)
    have same := last.table? owned
    rw [Target.run_sink _ _ _ _ _ (by simp [Halt.ending])] at same
    rw [left, right]
    dsimp only
    rw [← same, Target.run_sink _ _ _ _ _ (by simp [Halt.ending])]
    exact ⟨t, shaped, there, there⟩
  · rw [left, right]
    exact last.database
  · intro records record board
    have related := coincide.insertAll records
    exact ⟨related.answer record, related.database⟩

/-- An empty database, and one that holds a board whose prefix differs in case only. -/
theorem fill_comes_out_alike_older :
    let job : Job := {
      root := .ofString "export", address := "sqlite:board.db"
      config := ⟨some 1, 16, false, "%Y-%m-%d", "old_", 0⟩ }
    let older : Job := { job with config := { job.config with tablePrefix := "OLD_" } }
    let files : List SourceFile := [⟨"index.html", .items [
      .record (.forum { id := some 3, name := "News", categoryName := "General" }),
      .record (.forum { name := "Wiki", redirect := some "wiki", categoryName := "General" })]⟩]
    let used := (older.fill {} files).database
    Store.Worked {} ∧ Store.Worked used ∧ Store.Plain job.config.tablePrefix ∧
    Store.Sink.isReserved job.config.tablePrefix = false ∧ job.ComesOutAlike {} used files := by
  intro job older files used
  have empty : Store.Worked {} := .new
  have worked : Store.Worked used := empty.fill older files
  have plain : Store.Plain job.config.tablePrefix := by
    change Store.Plain "old_"
    decide
  have free : Store.Sink.isReserved job.config.tablePrefix = false := by decide +kernel
  exact ⟨empty, worked, plain, free, job.fill_comes_out_alike empty worked plain free files⟩

end Job
end BoardMigration
