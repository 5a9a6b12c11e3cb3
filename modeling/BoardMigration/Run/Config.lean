import BoardMigration.Settings

/-! What one run is asked for. -/
namespace BoardMigration

/-- Choices for a run; what is left open comes from the settings. -/
structure Options where
  workers : Option Int := none
  maxPending : Option Int := none
  append : Bool := false
  dateFormat : Option String := none
  tablePrefix : Option String := none
  fallbackTopic : Option Int := none
  deriving DecidableEq, Repr

structure Config where
  /-- None: one worker more than there are processors. -/
  workers : Option Int
  maxPending : Int
  append : Bool
  dateFormat : String
  tablePrefix : String
  fallbackTopic : Int
  deriving DecidableEq, Repr

inductive ConfigError where
  | tooFewWorkers
  | tooFewPending
  deriving DecidableEq, Repr

def ConfigError.message : ConfigError → String
  | .tooFewWorkers => "num_workers must be at least 1"
  | .tooFewPending => "max_pending_files must be at least 1"

def Config.check (config : Config) : Except ConfigError Config :=
  if config.workers.any (· < 1) then .error .tooFewWorkers
  else if config.maxPending < 1 then .error .tooFewPending
  else .ok config

def Options.config (options : Options) (settings : Settings) : Except ConfigError Config :=
  Config.check {
    workers := options.workers.or settings.workers
    maxPending := options.maxPending.getD settings.maxPending
    append := options.append
    dateFormat := options.dateFormat.getD settings.dateFormat
    tablePrefix := options.tablePrefix.getD settings.tablePrefix
    fallbackTopic := options.fallbackTopic.getD settings.fallbackTopic }

/-- The format dates are read by; an empty one means the usual. -/
def Config.pageFormat (config : Config) : String :=
  if config.dateFormat.isEmpty then Date.defaultFormat else config.dateFormat

end BoardMigration
