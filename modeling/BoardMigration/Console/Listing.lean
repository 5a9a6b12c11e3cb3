import BoardMigration.Console.Screen

/-! Telling of finished files: on the console, where errors are listed above a progress bar, or in the
log. -/
namespace BoardMigration.Console

structure Listing where
  goal : Nat
  done : Nat := 0
  errors : Nat := 0
  lines : List String := []
  /-- What stands beside the bar, as styled text. -/
  description : String := "Migrating"
  deriving DecidableEq, Repr

namespace Listing

def heading (l : Listing) (name : String) (errors : List String) : String :=
  s!"{errors.length} errors occurred when processing {l.done}/{l.goal}: {escape name}"

/-- What is printed of a file with errors: each error, then how many there were. -/
def told (l : Listing) (name : String) (errors : List String) : Except MarkupError (List String) := do
  if errors.isEmpty then pure []
  else
    let texts := errors.map fun error => s!"[red]{escape error}[/red]"
    let printed ← (texts ++ [l.heading name errors]).mapM print
    pure printed.flatten

def report (l : Listing) (name : String) (errors : List String) : Except MarkupError Listing := do
  let l := { l with done := l.done + 1, errors := l.errors + errors.length }
  let told ← l.told name errors
  pure { l with lines := l.lines ++ told, description := s!"Migrating {escape name}" }

end Listing

/-- The log's entries of one file. -/
def logged (name : String) (errors : List String) : List String :=
  errors.map fun error => s!"{name}: {error}"

end BoardMigration.Console
