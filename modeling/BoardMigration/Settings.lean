import BoardMigration.Date.Format
import BoardMigration.Record.Field
import BoardMigration.Settings.EnvFile
import BoardMigration.Text.Case

/-! Settings from the environment and from a file of assignments. The environment counts first, and
case does not tell variable names apart. -/
namespace BoardMigration

structure Settings where
  tablePrefix : String := ""
  dateFormat : String := Date.defaultFormat
  /-- None: one worker more than there are processors. -/
  workers : Option Int := none
  /-- How many files may be under way at a time. -/
  maxPending : Int := 16
  /-- The topic of posts whose own is never found. -/
  fallbackTopic : Int := 0
  logLevel : String := "INFO"
  deriving DecidableEq, Repr

namespace Settings

/-- What the names of all variables begin with. -/
def variableStart : String := "punparse_"

def fieldNames : List String := [
  "table_prefix", "date_format", "num_workers", "max_pending_files", "sentinel_topic_id", "log_level"]

/-- The variable of a setting; of names that only case tells apart, the first of the list counts. -/
def named? (known : List (String × α)) (name : String) : Option α :=
  (known.find? fun (other, _) => Text.lower other == variableStart ++ name).map (·.2)

def given (environment : EnvFile.Variables) (file : String) : Fields :=
  let assigned := EnvFile.read environment file
  fieldNames.filterMap fun name =>
    ((named? environment.reverse name).orElse fun _ => (named? assigned name).join).map
      fun value => (name, Datum.text value)

def read (environment : EnvFile.Variables) (file : String) : Except FieldFaults Settings :=
  let fields := given environment file
  (((Gathered.pure fun tablePrefix dateFormat workers maxPending fallbackTopic logLevel =>
      ({ tablePrefix, dateFormat, workers, maxPending, fallbackTopic, logLevel } : Settings))
    |>.next (fields.get Datum.toText (some "") "table_prefix"))
    |>.next (fields.get Datum.toText (some Date.defaultFormat) "date_format"))
    |>.next (fields.get (fun d => d.toInt.map some) (some none) "num_workers")
    |>.next (fields.get Datum.toInt (some 16) "max_pending_files")
    |>.next (fields.get Datum.toInt (some 0) "sentinel_topic_id")
    |>.next (fields.get Datum.toText (some "INFO") "log_level")
    |>.result

end Settings
end BoardMigration
