import BoardMigration.Console.Markup
import BoardMigration.Text.Split

/-! Lines of a console of fixed width. -/
namespace BoardMigration.Console

open Text

/-- Characters that move the cursor are left out. -/
def isControl (c : Char) : Bool := [7, 8, 11, 12, 13].contains c.toNat

/-- Blanks before a word, the word, and the blanks behind it. -/
def firstWord (text : List Char) : List Char :=
  let lead := text.takeWhile isBlank
  let word := (text.drop lead.length).takeWhile (!isBlank ·)
  lead ++ word ++ ((text.drop (lead.length + word.length)).takeWhile isBlank)

/-- Words with the blanks around them; `fuel` bounds their number. -/
def spacedWords : (fuel : Nat) → List Char → List (List Char)
  | 0, _ => []
  | fuel + 1, text =>
    let word := firstWord text
    if word.isEmpty || isBlankText word then []
    else word :: spacedWords fuel (text.drop word.length)

def dropTrailing (text : List Char) : List Char := (text.reverse.dropWhile isBlank).reverse

def chop (width : Nat) : (fuel : Nat) → List Char → List (List Char)
  | 0, word => [word]
  | fuel + 1, word =>
    if word.length ≤ width then [word] else word.take width :: chop width fuel (word.drop width)

/-- Puts words on lines. `line` is the line so far. -/
def fillLines (width : Nat) : (line : List Char) → List (List Char) → List (List Char)
  | line, [] => [line]
  | line, word :: rest =>
    let size := (dropTrailing word).length
    if line.length + size ≤ width then fillLines width (line ++ word) rest
    else if size > width then
      let cut := chop width word.length word
      let full := cut.dropLast
      (if line.isEmpty then full else line :: full) ++ fillLines width (cut.getLast?.getD []) rest
    else if line.isEmpty then fillLines width word rest
    else line :: fillLines width word rest

/-- Tabs reach to the next multiple of eight columns. -/
def expandTabs (column : Nat) : List Char → List Char
  | [] => []
  | c :: rest =>
    if c == '\t' then
      List.replicate (8 - column % 8) ' ' ++ expandTabs (column + (8 - column % 8)) rest
    else c :: expandTabs (column + 1) rest

/-- A line of text as lines of the console, without blanks at their ends. -/
def wrap (width : Nat) (line : List Char) : List String :=
  let line := expandTabs 0 line
  if line.length ≤ width then [String.ofList (dropTrailing line)]
  else (fillLines width [] (spacedWords line.length line)).map fun l => String.ofList (dropTrailing l)

def consoleWidth : Nat := 1000

def lines (text : String) : List String :=
  (split '\n' (text.toList.filter (!isControl ·))).flatMap (wrap consoleWidth)

def print (text : String) : Except MarkupError (List String) := (render text).map lines

end BoardMigration.Console
