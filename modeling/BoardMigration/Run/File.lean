import BoardMigration.Page.Extract
import BoardMigration.Resolution

/-! The files of a run, what reading one comes to, and what is told about it afterwards. -/
namespace BoardMigration

/-- What is in a file, as far as a migration can see. No document can be made of a `garbled` one, a `foreign` one
is no page with records, and a `broken` one breaks the extraction off in a way nobody foresaw. -/
inductive Contents where
  | unreadable
  | garbled
  | foreign
  | items (items : List Item)
  | broken (message : String)
  deriving DecidableEq, Repr

def Contents.ofPage (format : String) (page : List UInt8) : Contents :=
  match Page.extract format page with
  | .ok found => .items found
  | .error (.load _) => .garbled
  | .error .noBoard => .foreign
  | .error (.unsupported _) => .foreign
  | .error error => .broken error.message

structure SourceFile where
  name : String
  contents : Contents
  deriving DecidableEq, Repr

/-- Why a target did not take a record: the database refused, or anything else. -/
inductive WriteFault where
  | refused (message : String)
  | other (message : String)
  deriving DecidableEq, Repr

inductive FileError where
  | unreadable
  | garbled
  | malformed (error : Malformed)
  | conflict (conflict : Conflict)
  | write (fault : WriteFault)
  | unexpected (message : String)
  deriving DecidableEq, Repr

def WriteFault.message : WriteFault → String
  | .refused message => s!"SQL error: {message}"
  | .other message => s!"Couldn't write record: {message}"

def FileError.message : FileError → String
  | .unreadable => "Couldn't read file."
  | .garbled => "Couldn't get data."
  | .malformed error => s!"Error in input data: {error.message}"
  | .conflict c => s!"Error in input data: {c.message}"
  | .write fault => fault.message
  | .unexpected message => message

/-- What happened to one file. Records that were there already count as present, posts that wait for their topic
as deferred. -/
structure Outcome where
  name : String
  written : Nat := 0
  present : Nat := 0
  deferred : Nat := 0
  errors : List FileError := []
  deriving DecidableEq, Repr

namespace Outcome

def fail (o : Outcome) (error : FileError) : Outcome := { o with errors := o.errors ++ [error] }

def count (o : Outcome) : Except WriteFault Bool → Outcome
  | .ok true => { o with written := o.written + 1 }
  | .ok false => { o with present := o.present + 1 }
  | .error fault => o.fail (.write fault)

end Outcome

structure Report where
  name : String
  errors : List FileError
  deriving DecidableEq, Repr

def Outcome.report (o : Outcome) : Report := ⟨o.name, o.errors⟩

end BoardMigration
