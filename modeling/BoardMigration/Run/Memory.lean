import BoardMigration.Run

/-! A target that keeps records in memory: the first of each number, or of each row where a record
brings no number. -/
namespace BoardMigration

/-- What two records must share to be the same row of a table. -/
inductive Identity where
  | number (table : String) (n : Int)
  | row (table : String) (row : List (String × Value))
  deriving DecidableEq, Repr

def Record.identity (r : Record) : Identity :=
  match r.key with
  | some n => .number r.table n
  | none => .row r.table r.row

/-- Records in the order in which they came. -/
abbrev Memory := List Record

namespace Memory

def insert (memory : Memory) (record : Record) : Memory × Bool :=
  if memory.any (·.identity == record.identity) then (memory, false)
  else (memory ++ [record], true)

def target : Target Memory where
  insert memory record :=
    let (memory, written) := Memory.insert memory record
    (.ok written, memory)
  close := id

end Memory
end BoardMigration
