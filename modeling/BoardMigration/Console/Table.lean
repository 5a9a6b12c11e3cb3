import BoardMigration.Console.Screen

/-! Tables of two columns without rules: a title in the middle, a line of headers, and the rows. Every
cell has a blank on either side. -/
namespace BoardMigration.Console

structure Table where
  title : String
  headers : String × String
  rows : List (String × String)
  /-- Whether the second column leans to the right. -/
  numbers : Bool := true

namespace Table

def widest (texts : List String) : Nat := (texts.map String.length).foldl max 0

def spaces (n : Nat) : String := String.ofList (List.replicate n ' ')

def center (width : Nat) (text : String) : String :=
  let left := (width - text.length) / 2
  spaces left ++ text ++ spaces (width - text.length - left)

def lines (t : Table) : List String :=
  let all := t.headers :: t.rows
  let (first, second) := (widest (all.map (·.1)), widest (all.map (·.2)))
  let row := fun (cells : String × String) =>
    let gap := spaces (second - cells.2.length)
    " " ++ cells.1 ++ spaces (first - cells.1.length) ++ "  " ++
      (if t.numbers then gap ++ cells.2 else cells.2 ++ gap) ++ " "
  let width := first + second + 4
  (wrap width t.title.toList).map (center width) ++ all.map row

end Table
end BoardMigration.Console
