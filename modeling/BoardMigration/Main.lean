import BoardMigration.CommandLine.Execute
import BoardMigration.Store.Script

/-! The program. The files of an export are named on standard input, one path a line, and those of
directories end in a slash. Databases are kept as scripts. -/
namespace BoardMigration.Program

/-- The file of a command's database. -/
def databasePath? : CommandLine.Command → Option String
  | .migrate _ address _ => path? address
  | .stats address _ => path? address
  | _ => none
where
  path? (address : String) : Option String :=
    match Store.locate address with
    | .ok (.file path) => some path.toString
    | _ => none

partial def inputLines (input : IO.FS.Stream) : IO (List String) := do
  let line ← input.getLine
  if line.isEmpty then pure []
  else
    let rest ← inputLines input
    pure (line.trimAsciiEnd.toString :: rest)

def plantPath (listing : Export.Listing) (path : String) : IO Export.Listing := do
  let parts := (Export.Path.ofString path).parts
  if path.endsWith "/" then pure (Export.plant (.directory []) parts listing)
  else
    let bytes ← IO.FS.readBinFile path
    pure (Export.plant (.file bytes.toList) parts listing)

/-- A database's file as it is now, with its directory. -/
def plantDatabase (listing : Export.Listing) (path : String) : IO Export.Listing := do
  let parts := (Export.Path.ofString path).parts
  let listing := Export.plant (.directory []) parts.dropLast listing
  try
    let text ← IO.FS.readFile path
    let entry := match Store.Database.ofScript? text with
      | some db => Export.Entry.database db
      | none => .file text.toUTF8.toList
    pure (Export.plant entry parts listing)
  catch _ => pure listing

/-- Seconds to one place. -/
def seconds (milliseconds : Nat) : String := s!"{milliseconds / 1000}.{milliseconds / 100 % 10}s"

def world (command : CommandLine.Command) : IO CommandLine.World := do
  let start ← IO.monoMsNow
  let names ← match command with
    | .migrate _ _ _ => do inputLines (← IO.getStdin)
    | _ => pure []
  let files ← names.foldlM plantPath []
  let root ← match databasePath? command with
    | some path => plantDatabase files path
    | none => pure files
  let number ← IO.rand 0 0xFFFFFFFF
  let duration := seconds ((← IO.monoMsNow) - start)
  pure { fs := { root }, run := String.ofList (Text.hexadecimal 8 number), duration }

def save (fs : Export.FileSystem) (path : String) : IO Unit :=
  match fs.find? (.ofString path) with
  | some (.database _ db) => IO.FS.writeFile path db.script
  | _ => pure ()

def carryOut (command : CommandLine.Command) : IO UInt32 := do
  let (reply, fs) := command.execute (← world command)
  reply.lines.forM IO.println
  match databasePath? command with
  | some path => save fs path
  | none => pure ()
  pure reply.exitCode.toUInt32

end BoardMigration.Program

def main (args : List String) : IO UInt32 :=
  match BoardMigration.CommandLine.Command.ofArguments? args with
  | some command => BoardMigration.Program.carryOut command
  | none => pure 2
