import BoardMigration.Text.Split

/-! Options among the arguments of a command. Long ones stand alone or have their value behind an
equals sign; short ones may be strung together, with a value at the end. Two minus signs end the
options. -/
namespace BoardMigration.CommandLine

structure Choice where
  key : String
  spellings : List String
  takesValue : Bool := true
  deriving DecidableEq, Repr

/-- Arguments that are no options, and options in order, those without a value with an empty one. -/
structure Arguments where
  positional : List String := []
  chosen : List (String × String) := []
  deriving DecidableEq, Repr

namespace Arguments

/-- The value of an option; the last one counts. -/
def value? (a : Arguments) (key : String) : Option String :=
  (a.chosen.reverse.find? (·.1 == key)).map (·.2)

def find? (choices : List Choice) (spelling : String) : Option Choice :=
  choices.find? (·.spellings.contains spelling)

def choose (a : Arguments) (key value : String) : Arguments :=
  { a with chosen := a.chosen ++ [(key, value)] }

/-- Takes a string of short options; `rest` are the arguments behind it. -/
def takeShort (choices : List Choice) (rest : List String) :
    Arguments → List Char → Option (Arguments × List String)
  | a, [] => some (a, rest)
  | a, c :: more => do
    let choice ← find? choices (String.ofList ['-', c])
    if choice.takesValue then
      match more, rest with
      | [], [] => none
      | [], value :: rest => some (a.choose choice.key value, rest)
      | more, rest => some (a.choose choice.key (String.ofList more), rest)
    else takeShort choices rest (a.choose choice.key "") more

def takeLong (choices : List Choice) (rest : List String) (a : Arguments) (text : List Char) :
    Option (Arguments × List String) := do
  let name := text.takeWhile (· != '=')
  let choice ← find? choices (String.ofList name)
  match text.drop name.length, rest with
  | _ :: value, rest =>
    if choice.takesValue then some (a.choose choice.key (String.ofList value), rest) else none
  | [], rest =>
    if !choice.takesValue then some (a.choose choice.key "", rest)
    else match rest with
      | value :: rest => some (a.choose choice.key value, rest)
      | [] => none

/-- Reads arguments; none if an option is unknown or lacks its value. `fuel` bounds their number. -/
def read? (choices : List Choice) : (fuel : Nat) → Arguments → List String → Option Arguments
  | 0, a, _ => some a
  | _, a, [] => some a
  | fuel + 1, a, arg :: rest =>
    match arg.toList with
    | ['-', '-'] => some { a with positional := a.positional ++ rest }
    | '-' :: '-' :: _ => do
      let (a, rest) ← takeLong choices rest a arg.toList
      read? choices fuel a rest
    | '-' :: c :: more => do
      let (a, rest) ← takeShort choices rest a (c :: more)
      read? choices fuel a rest
    | _ => read? choices fuel { a with positional := a.positional ++ [arg] } rest

def ofList? (choices : List Choice) (args : List String) : Option Arguments :=
  read? choices args.length {} args

end Arguments
end BoardMigration.CommandLine
