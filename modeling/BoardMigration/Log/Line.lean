import BoardMigration.Log.Slot
import BoardMigration.Log.Stamp

/-! Lines of the log. A layout names the parts of an entry between brackets behind a percent sign. -/
namespace BoardMigration.Log

structure LogEntry where
  level : String
  message : String
  created : Int
  thousandths : Nat := 0
  thread : String := ""
  /-- The run under way, if any. -/
  run : String := ""
  deriving DecidableEq, Repr

structure Layout where
  line : String := "[%(levelname)s] [%(asctime)s] [%(threadName)s] [%(run_id)s] %(message)s"
  /-- Pattern of times; if it is empty, times are plain. -/
  time : String := "%d-%b %H:%M:%S"
  deriving DecidableEq, Repr

def levels : List (String × Nat) :=
  [("DEBUG", 10), ("INFO", 20), ("WARNING", 30), ("ERROR", 40), ("CRITICAL", 50)]

namespace LogEntry

def time (entry : LogEntry) (layout : Layout) : String :=
  let moment := Moment.ofTimestamp entry.created
  if layout.time.isEmpty then plainStamp moment entry.thousandths
  else capitals moment layout.time

def part? (entry : LogEntry) (layout : Layout) : String → Option PartValue
  | "levelname" => some (.text entry.level)
  | "levelno" => (levels.lookup entry.level).map fun n => .number n
  | "message" => some (.text entry.message)
  | "asctime" => some (.text (entry.time layout))
  | "threadName" => some (.text entry.thread)
  | "run_id" => some (.text entry.run)
  | "created" => some (.number entry.created)
  | "msecs" => some (.number entry.thousandths)
  | _ => none

end LogEntry

def isNameChar (c : Char) : Bool := c.isAlphanum || c == '_' || c.toNat ≥ 128

/-- Whether a layout has a slot with a name and a letter in any case. -/
def hasSlot : List Char → Bool
  | [] => false
  | c :: rest =>
    (match c, rest with
      | '%', '(' :: text => match Slot.read text with
        | .ok (slot, _) =>
          !slot.name.isEmpty && slot.name.all isNameChar &&
            (Slot.letters.contains slot.letter.toLower || ['a', 'e', 'g'].contains slot.letter.toLower)
        | .error _ => false
      | _, _ => false) || hasSlot rest

/-- Lays out the rest of a line of the given length; `fuel` bounds what is left of it. -/
def layOut (part? : String → Option PartValue) (length : Nat) :
    (fuel : Nat) → List Char → Except LayoutError String
  | 0, text => .ok (String.ofList text)
  | _, [] => .ok ""
  | _, ['%'] => .error .unfinished
  | fuel + 1, '%' :: '%' :: rest => ("%" ++ ·) <$> layOut part? length fuel rest
  | fuel + 1, '%' :: '(' :: rest => do
    let (slot, rest) ← Slot.read rest
    let some value := part? slot.name | throw (.unknownPart slot.name)
    if !Slot.letters.contains slot.letter then
      throw (.unknownLetter slot.letter (length - rest.length - 1))
    let text ← slot.set value
    (text ++ ·) <$> layOut part? length fuel rest
  | fuel + 1, c :: rest => (c.toString ++ ·) <$> layOut part? length fuel rest

def LogEntry.line (entry : LogEntry) (layout : Layout) : Except LayoutError String :=
  let text := layout.line.toList
  if hasSlot text then layOut (entry.part? layout) text.length (text.length + 1) text
  else .error (.withoutSlot layout.line)

end BoardMigration.Log
