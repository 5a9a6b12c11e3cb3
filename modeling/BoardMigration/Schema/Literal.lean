import BoardMigration.Schema.Statement

/-! Reading literals back, by the rule of standard SQL: two quotes in a string stand for one, and the
first single one ends it. -/
namespace BoardMigration.Schema

/-- Reads a string from behind its opening quote, and what follows it. -/
def readQuoted : List Char → Option (List Char × List Char)
  | '\'' :: '\'' :: rest => (readQuoted rest).map fun (text, rest) => ('\'' :: text, rest)
  | '\'' :: rest => some ([], rest)
  | c :: rest => (readQuoted rest).map fun (text, rest) => (c :: text, rest)
  | [] => none

def readString : List Char → Option (List Char × List Char)
  | '\'' :: rest => readQuoted rest
  | _ => none

/-- The text behind a given beginning. -/
def behind? (start : String) (text : List Char) : Option (List Char) :=
  if start.toList.isPrefixOf text then some (text.drop start.length) else none

def digits (text : List Char) : Option (Nat × List Char) :=
  let run := text.takeWhile Char.isDigit
  if run.isEmpty then none
  else some (run.foldl (fun n d => 10 * n + (d.toNat - 48)) 0, text.drop run.length)

/-- Reads a literal, and what follows it. -/
def readLiteral (text : List Char) : Option (Value × List Char) :=
  match text with
  | '\'' :: _ => (readString text).map fun (s, rest) => (.text (String.ofList s), rest)
  | 'N' :: _ => (behind? "NULL" text).map (Value.null, ·)
  | '-' :: rest => (digits rest).map fun (n, rest) => (.int (-n), rest)
  | _ => (digits text).map fun (n, rest) => (.int n, rest)

/-- Reads as many literals as asked for, with commas between them. -/
def readLiterals : (count : Nat) → List Char → Option (List Value × List Char)
  | 0, text => some ([], text)
  | 1, text => (readLiteral text).map fun (value, rest) => ([value], rest)
  | count + 1, text => do
    let (value, rest) ← readLiteral text
    let rest ← behind? ", " rest
    let (values, rest) ← readLiterals count rest
    pure (value :: values, rest)

end BoardMigration.Schema
