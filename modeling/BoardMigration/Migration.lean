import BoardMigration.Export.Discover
import BoardMigration.Run
import BoardMigration.Run.Config
import BoardMigration.Store.Connect

/-! A migration: the pages of an export directory go into a database. Only three things keep it from
starting: a root that is no directory, a database that cannot be reached, tables that cannot be
created. -/
namespace BoardMigration

def Store.StoreError.toFault : Store.StoreError → WriteFault
  | .closed => .refused Store.StoreError.closed.message
  | .refused action fault => .refused (Store.StoreError.refused action fault).message
  | .overflow => .other Store.StoreError.overflow.message

def Store.target : Target Store.Sink where
  insert sink record :=
    let (answer, sink) := sink.insert record
    (answer.mapError Store.StoreError.toFault, sink)
  close sink := sink.close

/-- A file that is no database refuses every record. -/
def Store.garbageTarget : Target Unit where
  insert _ record :=
    (.error (.refused s!"{(Store.Action.insert record.table).message}: {Store.garbageMessage}"), ())
  close := id

inductive MigrationError where
  | setup (error : Export.SetupError)
  | connect (error : Store.ConnectError)
  | provision (error : Store.StoreError)
  /-- The tables cannot be created in a file that is no database. -/
  | garbage
  | interrupted
  deriving DecidableEq, Repr

def MigrationError.message : MigrationError → String
  | .setup error => error.message
  | .connect error => error.message
  | .provision error => error.message
  | .garbage => s!"{Store.Action.create.message}: {Store.garbageMessage}"
  | .interrupted => ""

structure Job where
  root : Export.Path
  address : String
  config : Config
  /-- Files in the order of their reading; none: all files of the root. -/
  files : Option (List Export.Path) := none
  halt : Halt := .never

/-- How a migration ended: the files with the database as it is now, and what was told. -/
structure Migrated where
  fs : Export.FileSystem
  reports : List Report := []
  result : Except MigrationError Summary

/-- A database after a migration into it, and what was told. -/
structure Filled where
  database : Store.Database
  reports : List Report := []
  result : Except MigrationError Summary

namespace Job

variable (job : Job) (fs : Export.FileSystem)

def source (path : Export.Path) : SourceFile where
  name := Export.Path.nameIn job.root path
  contents :=
    match fs.file? path with
    | some file => .ofPage job.config.pageFormat file.bytes
    | none => .unreadable

def paths : Except MigrationError (List Export.Path) :=
  match job.files with
  | some files => .ok files
  | none =>
    match Export.discover fs job.root with
    | .ok files => .ok (files.map (·.path))
    | .error error => .error (.setup error)

def sources (paths : List Export.Path) : List SourceFile := paths.map (job.source fs)

def resultOf {σ : Type} (done : Completed σ) : Except MigrationError Summary :=
  done.summary.elim (.error .interrupted) .ok

/-- Migrates files into a database, whose tables are created first unless it is appended to. Files
are taken one after another, as by one worker. -/
def fill (db : Store.Database) (files : List SourceFile) : Filled :=
  let sink := Store.Sink.connect db job.config.tablePrefix
  let (provisioned, sink) := if job.config.append then (.ok (), sink) else sink.provision
  match provisioned with
  | .error error => { database := sink.database, result := .error (.provision error) }
  | .ok () =>
    let done := Store.target.run sink job.config.fallbackTopic files job.halt
    { database := done.sink.database, reports := done.reports, result := resultOf done }

def into (opened : Store.Opened) (db : Store.Database) (files : List SourceFile) : Migrated :=
  let filled := job.fill db files
  { fs := opened.save fs filled.database, reports := filled.reports, result := filled.result }

def migrate : Migrated :=
  match job.paths fs with
  | .error error => { fs, result := .error error }
  | .ok paths =>
    match Store.connect fs job.address with
    | .error error => { fs, result := .error (.connect error) }
    | .ok opened =>
      let files := job.sources fs paths
      match opened.medium with
      | .database db => job.into fs opened db files
      | .garbage =>
        if job.config.append then
          let done := Store.garbageTarget.run () job.config.fallbackTopic files job.halt
          { fs, reports := done.reports, result := resultOf done }
        else { fs, result := .error .garbage }

end Job
end BoardMigration
