import BoardMigration.CommandLine.Command
import BoardMigration.Console.Listing
import BoardMigration.Console.Table
import BoardMigration.Migration
import BoardMigration.Schema.Statement
import BoardMigration.Store.Dump

/-! Carrying out commands. A command gets the files as they are and answers with what it prints, its
exit code and the files as they are afterwards. -/
namespace BoardMigration.CommandLine

open Console

/-- What a command finds. -/
structure World where
  fs : Export.FileSystem
  settings : Settings := {}
  processors : Nat := 1
  /-- Name of a run that may be started. -/
  run : String := ""
  /-- Time it took to find all this. -/
  duration : String := ""

/-- What breaks a command off without a message of its own. -/
inductive Break where
  | markup (error : MarkupError)
  | connect (error : Store.ConnectError)
  | config (error : ConfigError)
  | migration (error : MigrationError)
  deriving DecidableEq, Repr

structure Reply where
  exitCode : Nat := 0
  lines : List String := []
  broken : Option Break := none
  deriving DecidableEq, Repr

namespace Reply

/-- An answer to misuse. -/
def usage : Reply := { exitCode := 2 }

def breakOff (lines : List String) (cause : Break) : Reply :=
  { exitCode := 1, lines, broken := some cause }

/-- Ends with a styled text. -/
def ending (exitCode : Nat) (lines : List String) (text : String) : Reply :=
  match print text with
  | .ok more => { exitCode, lines := lines ++ more }
  | .error error => breakOff lines (.markup error)

/-- Ends for want of a database. -/
def unconnected (lines : List String) (start : String) (error : Store.ConnectError) : Reply :=
  if error.isRefusal then ending 1 lines (start ++ error.message) else breakOff lines (.connect error)

end Reply

def summaryTable (world : World) (s : Summary) : Table where
  title := "Migration Summary"
  headers := ("Metric", "Value")
  rows := [
    ("run_id", world.run), ("files", toString s.files),
    ("files without errors", toString s.processed), ("files with errors", toString s.failed),
    ("records written", toString s.written), ("records already present", toString s.present),
    ("posts deferred", toString s.deferred), ("posts without topic", toString s.flushed),
    ("errors", toString s.errors.length), ("duration", world.duration)]

def verdict (s : Summary) : String :=
  if s.stopped then "[yellow]Migration was stopped before every file was submitted."
  else if s.errors.isEmpty then "[green]✓ Migration complete"
  else s!"[yellow]Completed with {s.errors.length} errors."

/-- What is printed of the files. -/
def tellReports (files : Nat) (reports : List Report) : Except MarkupError (List String) := do
  let listing ← reports.foldlM (fun (l : Listing) r => l.report r.name (r.errors.map (·.message)))
    { goal := files }
  pure listing.lines

def migrateReply (world : World) (lines : List String) (done : Migrated) : Reply :=
  match done.result with
  | .ok summary => Reply.ending 0 (lines ++ (summaryTable world summary).lines) (verdict summary)
  | .error (.connect error) => Reply.unconnected lines "[red]Fatal: " error
  | .error .interrupted => Reply.breakOff lines (.migration .interrupted)
  | .error error => Reply.ending 1 lines ("[red]Fatal: " ++ error.message)

def runMigration (world : World) (root address : String) (options : Options) :
    Reply × Export.FileSystem :=
  match options.config world.settings with
  | .error error => (Reply.breakOff [] (.config error), world.fs)
  | .ok config =>
    let root := Export.Path.ofString root
    match Export.discover world.fs root with
    | .error error => (Reply.ending 1 [] ("[red]Error: " ++ error.message), world.fs)
    | .ok files =>
      let notice := if files.isEmpty then print s!"[yellow]No files found in {root}" else .ok []
      match notice with
      | .error error => (Reply.breakOff [] (.markup error), world.fs)
      | .ok notice =>
        let job : Job := { root, address, config, files := some (files.map (·.path)) }
        let done := job.migrate world.fs
        match tellReports files.length done.reports with
        | .error error => (Reply.breakOff notice (.markup error), done.fs)
        | .ok told => (migrateReply world (notice ++ told) done, done.fs)

def printSchema (name tablePrefix : String) (seed : Bool) : Reply :=
  match Schema.Dialect.ofName? name with
  | none => Reply.ending 1 [] ("[red]Error: " ++ Schema.unsupported name)
  | some dialect =>
    let place : Schema.Place := ⟨dialect, tablePrefix⟩
    let statements := place.creates ++ if seed then Schema.seeds.map place.seed else []
    { lines := statements.flatMap fun statement =>
        (Text.split '\n' (statement ++ ";").toList).map String.ofList }

/-- Rows of the tables of records. -/
def counts (sink : Store.Sink) : Except Store.StoreError (List (String × String)) :=
  Store.recordTables.mapM fun name => (sink.count name).1.map fun n => (name, toString n)

def statsTable (rows : List (String × String)) : Table where
  title := "Database Statistics"
  headers := ("Table", "Rows")
  rows := rows

def garbageCount : String :=
  (Store.Action.count "categories").message ++ ": " ++ Store.garbageMessage

def showStats (world : World) (address tablePrefix : String) : Reply × Export.FileSystem :=
  match Store.connect world.fs address with
  | .error error => (Reply.unconnected [] "[red]Error: " error, world.fs)
  | .ok opened =>
    match opened.medium with
    | .garbage => (Reply.ending 1 [] ("[red]Error: " ++ garbageCount), world.fs)
    | .database db =>
      let reply := match counts (.connect db tablePrefix) with
        | .error error => Reply.ending 1 [] ("[red]Error: " ++ error.message)
        | .ok rows => { lines := (statsTable rows).lines : Reply }
      (reply, opened.save world.fs db)

def settingsTable (world : World) : Table where
  title := "Configuration"
  headers := ("Setting", "Value")
  numbers := false
  rows :=
    let s := world.settings
    [("table_prefix", s.tablePrefix), ("date_format", s.dateFormat),
      ("num_workers", toString (s.workers.getD (world.processors + 1))),
      ("max_pending_files", toString s.maxPending), ("sentinel_topic_id", toString s.fallbackTopic),
      ("log_level", s.logLevel)]

def Command.execute (world : World) : Command → Reply × Export.FileSystem
  | .migrate root address options => runMigration world root address options
  | .schema dialect tablePrefix seed =>
    (printSchema dialect (tablePrefix.getD world.settings.tablePrefix) seed, world.fs)
  | .stats address tablePrefix =>
    showStats world address (tablePrefix.getD world.settings.tablePrefix)
  | .showSettings => ({ lines := (settingsTable world).lines }, world.fs)

/-- Carries out a command line. -/
def execute (world : World) (args : List String) : Reply × Export.FileSystem :=
  match Command.ofArguments? args with
  | some command => command.execute world
  | none => (Reply.usage, world.fs)

end BoardMigration.CommandLine
