import BoardMigration.CommandLine.Arguments
import BoardMigration.Run.Config
import BoardMigration.Text.Numeral

/-! The commands. -/
namespace BoardMigration.CommandLine

inductive Command where
  | migrate (root address : String) (options : Options)
  | schema (dialect : String) (tablePrefix : Option String) (seed : Bool)
  | stats (address : String) (tablePrefix : Option String)
  | showSettings
  deriving DecidableEq, Repr

namespace Command

def prefixChoice : Choice := { key := "prefix", spellings := ["--prefix", "-p"] }

def migrateChoices : List Choice := [
  prefixChoice,
  { key := "append", spellings := ["--append", "-a"], takesValue := false },
  { key := "date format", spellings := ["--date-format"] },
  { key := "workers", spellings := ["--workers", "-w"] }]

/-- Seeding is on unless the last word on it is no. -/
def schemaChoices : List Choice := [
  prefixChoice,
  { key := "seed", spellings := ["--seed"], takesValue := false },
  { key := "no seed", spellings := ["--no-seed"], takesValue := false }]

def readMigrate? (a : Arguments) : Option Command := do
  let [root, address] := a.positional | none
  let options : Options := {
    append := (a.value? "append").isSome
    dateFormat := a.value? "date format"
    tablePrefix := a.value? "prefix" }
  match a.value? "workers" with
  | none => some (.migrate root address options)
  | some text =>
    let workers ← Text.readInt? text.toList
    if workers < 1 then none
    else some (.migrate root address { options with workers := some workers })

def seeds (a : Arguments) : Bool :=
  match a.chosen.reverse.find? fun (key, _) => key == "seed" || key == "no seed" with
  | some (key, _) => key == "seed"
  | none => true

def readSchema? (a : Arguments) : Option Command := do
  let [dialect] := a.positional | none
  some (.schema dialect (a.value? "prefix") (seeds a))

def readStats? (a : Arguments) : Option Command := do
  let [address] := a.positional | none
  some (.stats address (a.value? "prefix"))

/-- Reads a command line; none if it is misused. -/
def ofArguments? : List String → Option Command
  | "migrate" :: args => (Arguments.ofList? migrateChoices args).bind readMigrate?
  | "schema" :: args => (Arguments.ofList? schemaChoices args).bind readSchema?
  | "stats" :: args => (Arguments.ofList? [prefixChoice] args).bind readStats?
  | "config-show" :: args =>
    (Arguments.ofList? [] args).bind fun a => if a.positional.isEmpty then some .showSettings else none
  | _ => none

end Command
end BoardMigration.CommandLine
