import BoardMigration.Schema.Literal
import BoardMigration.Store.Database
import BoardMigration.Text.Blank
import BoardMigration.Text.Split
import BoardMigration.Text.Word

/-! Table names as SQL reads them. A prefix is written between the quotes as it stands, so one that
holds a quote or a colon can change the statement it is part of; what the database then says is
worked out here. Behind a quote a prefix may name a schema, end the statement, or bring the columns
and values of an insert itself; what else it may say there (an alias, a join, a query) counts as
refused, and so does the schema of temporary tables. -/
namespace BoardMigration.Store

inductive SqlFault where
  | noSuchTable (name : String)
  | noColumn (table column : String)
  | unknownDatabase (name : String)
  | syntaxNear (token : String)
  | unrecognized (token : String)
  | incomplete
  | manyStatements
  | reserved (name : String)
  | undroppable (name : String)
  | unboundParameter (name : String)
  | bindings (used supplied : Nat)
  | mismatch
  /-- All numbers of a table are taken. -/
  | full
  deriving DecidableEq, Repr

def SqlFault.message : SqlFault → String
  | .noSuchTable name => s!"(sqlite3.OperationalError) no such table: {name}"
  | .noColumn table column =>
    s!"(sqlite3.OperationalError) table {table} has no column named {column}"
  | .unknownDatabase name => s!"(sqlite3.OperationalError) unknown database \"{name}\""
  | .syntaxNear token => s!"(sqlite3.OperationalError) near \"{token}\": syntax error"
  | .unrecognized token => s!"(sqlite3.OperationalError) unrecognized token: \"{token}\""
  | .incomplete => "(sqlite3.OperationalError) incomplete input"
  | .manyStatements =>
    "(sqlite3.ProgrammingError) You can only execute one statement at a time."
  | .reserved name =>
    s!"(sqlite3.OperationalError) object name reserved for internal use: {name}"
  | .undroppable name => s!"(sqlite3.OperationalError) table {name} may not be dropped"
  | .unboundParameter name =>
    s!"(sqlalchemy.exc.InvalidRequestError) A value is required for bind parameter '{name}'"
  | .bindings used supplied => "(sqlite3.ProgrammingError) Incorrect number of bindings supplied. " ++
      s!"The current statement uses {used}, and there are {supplied} supplied."
  | .mismatch => "(sqlite3.IntegrityError) datatype mismatch"
  | .full => "(sqlite3.OperationalError) database or disk is full"

/-- What kind of statement a table name stands in; `on` is the table of an index. -/
inductive Statement where
  | drop | create | on | write | lookup | count
  deriving DecidableEq, Repr

/-- The parameter that a colon begins, unless a colon ends it or a word or colon comes before. -/
def parameter? : Char → List Char → Option (List Char)
  | _, [] => none
  | previous, c :: rest =>
    let word := rest.takeWhile Text.isWordChar
    let name := if (rest.drop word.length).head? == some ':' then word.dropLast else word
    if c == ':' && !(previous == ':' || previous == '\\' || Text.isWordChar previous) &&
        !name.isEmpty then some name
    else parameter? c rest

/-- A backslash that keeps a colon from beginning a parameter vanishes, unless another colon follows
the word behind the colon. -/
def plainColons : List Char → List Char
  | [] => []
  | c :: rest =>
    let word := (rest.drop 1).takeWhile fun d => Text.isWordChar d || d == '$'
    if c == '\\' && rest.head? == some ':' && (rest.drop (word.length + 1)).head? != some ':' then
      plainColons rest
    else c :: plainColons rest

/-- A quoted name: all of it, or the name before a quote that closes it early and the text behind. -/
inductive QuotedName where
  | whole (name : List Char)
  | cut (name rest : List Char)
  deriving DecidableEq

def QuotedName.cons (c : Char) : QuotedName → QuotedName
  | whole name => whole (c :: name)
  | cut name rest => cut (c :: name) rest

/-- Reads what follows an opening quote; two quotes stand for one. -/
def readQuotedName : List Char → QuotedName
  | [] => .whole []
  | '"' :: '"' :: rest => (readQuotedName rest).cons '"'
  | '"' :: rest => .cut [] rest
  | c :: rest => (readQuotedName rest).cons c

/-- A character of a name without quotes; no name begins with a digit. -/
def isNameChar (c : Char) : Bool := c.isAlphanum || c == '_' || c == '$' || c.toNat ≥ 128

inductive Gap where
  | between | line | block

/-- What follows blanks and comments. A comment that nothing closes takes all the rest. -/
def behindGap : Gap → List Char → List Char
  | _, [] => []
  | .line, c :: rest => behindGap (if c == '\n' then .between else .line) rest
  | .block, '*' :: '/' :: rest => behindGap .between rest
  | .block, _ :: rest => behindGap .block rest
  | .between, '-' :: '-' :: rest => behindGap .line rest
  | .between, '/' :: '*' :: rest => behindGap .block rest
  | .between, c :: rest =>
    if [' ', '\t', '\n', '\x0c', '\r'].contains c then behindGap .between rest else c :: rest

def skipGap : List Char → List Char := behindGap .between

/-- A table as a statement names it: its schema, if any, its name, and the text that a quote leaves
of the statement. -/
structure Reference where
  schema? : Option String := none
  name : String
  rest? : Option (List Char) := none
  deriving DecidableEq

def readReference (text : List Char) : Reference :=
  match readQuotedName text with
  | .whole name => { name := String.ofList name }
  | .cut name rest =>
    match skipGap rest with
    | '.' :: more =>
      let schema? := some (String.ofList name)
      match skipGap more with
      | '"' :: inner =>
        match readQuotedName inner with
        | .whole title => { schema?, name := String.ofList title }
        | .cut title rest => { schema?, name := String.ofList title, rest? := some rest }
      | more =>
        let word := more.takeWhile isNameChar
        if word.head?.all Char.isDigit then { name := String.ofList name, rest? := some rest }
        else { schema?, name := String.ofList word, rest? := some (more.drop word.length) }
    | _ => { name := String.ofList name, rest? := some rest }

namespace Statement

/-- What a statement has behind the quoted name of its table, as far as it matters. -/
def tail : Statement → List Char
  | drop => ['"']
  | create => "\" (\"".toList
  | on => "\" (\"".toList
  | write => "\" (\"".toList
  | lookup => "\" WHERE \"".toList
  | count => ['"']

def reads (statement : Statement) : Bool := statement == lookup || statement == count

def mayEnd (statement : Statement) : Bool := statement == drop || statement.reads

end Statement

def readBrackets (text : List Char) : Option (List (List Char) × List Char) :=
  match skipGap text with
  | '(' :: rest =>
    let inside := rest.takeWhile (· != ')')
    some ((Text.split ',' inside).map Text.strip, rest.drop (inside.length + 1))
  | _ => none

def readColumn (text : List Char) : Option String :=
  match text with
  | '"' :: rest =>
    match readQuotedName rest with
    | .cut name [] => some (String.ofList name)
    | _ => none
  | _ => none

/-- The columns of an insert that a prefix completes by itself, with a parameter for each. -/
def ownColumns? (text : List Char) : Option (List String) := do
  let (columns, rest) ← readBrackets text
  let rest ← Schema.behind? "VALUES" (skipGap rest)
  let (values, rest) ← readBrackets rest
  let rest := skipGap rest
  let ends := rest.isEmpty || rest.head? == some ';' && (skipGap (rest.drop 1)).isEmpty
  if ends && values == columns.map fun _ => ['?'] then columns.mapM readColumn else none

/-- The fault of a token where none may stand: a word, a quoted text or a single character. -/
def tokenFault (text : List Char) : SqlFault :=
  match skipGap text with
  | '"' :: rest =>
    let inside := rest.takeWhile (· != '"')
    if inside.length == rest.length then .unrecognized (String.ofList ('"' :: rest))
    else .syntaxNear (String.ofList ('"' :: inside ++ ['"']))
  | text =>
    let word := text.takeWhile isNameChar
    if word.head?.any Char.isDigit then .unrecognized (String.ofList word)
    else .syntaxNear (String.ofList (if word.isEmpty then text.take 1 else word))

/-- What is wrong with a statement of which a quote leaves the given text. A semicolon ends the
statement, a comment takes all the rest, and a word may name the table anew where rows are read. -/
def cutFault? (statement : Statement) (text : List Char) : Option SqlFault :=
  match skipGap text with
  | [] => if statement.mayEnd then none else some .incomplete
  | ';' :: more =>
    if !statement.mayEnd then some (.syntaxNear ";")
    else if statement == .drop && !(skipGap more).isEmpty then some .manyStatements
    else none
  | text =>
    let word := text.takeWhile isNameChar
    if (ownColumns? text).isSome && statement != .drop then
      if statement == .write then none else some (.syntaxNear "VALUES")
    else if statement.reads && !word.head?.any Char.isDigit then
      some (tokenFault (text.drop word.length))
    else some (tokenFault text)

namespace Reference

variable (reference : Reference) (statement : Statement)

def left? : Option (List Char) := reference.rest?.map (· ++ statement.tail)

def shown : String := reference.schema?.elim reference.name (· ++ "." ++ reference.name)

/-- Whether the table is one of the file. -/
def isHere : Bool := reference.schema?.all fun schema => foldName schema == "main"

def fault? : Option SqlFault :=
  match reference.left? statement with
  | some text => cutFault? statement text
  | none => if statement == .on && reference.schema?.isSome then some (.syntaxNear ".") else none

def resolve : Except SqlFault String :=
  match reference.fault? statement, reference.schema? with
  | some fault, _ => .error fault
  | none, none => .ok reference.name
  | none, some schema =>
    if reference.isHere then .ok reference.name
    else if statement == .create then .error (.unknownDatabase schema)
    else .error (.noSuchTable reference.shown)

/-- What is noticed only when the table is there: text behind the end of a statement, or a lookup
whose two parameters are cut off. -/
def lateFault? : Option SqlFault :=
  match reference.left? statement with
  | none => none
  | some text =>
    if !statement.reads then none
    else if !(skipGap ((skipGap text).drop 1)).isEmpty then some .manyStatements
    else if statement == .lookup then some (.bindings 0 2)
    else none

end Reference

/-- The table that a name means behind a prefix. -/
def readTable (tablePrefix name : String) : Except SqlFault Reference :=
  let written := tablePrefix.toList ++ name.toList
  match parameter? '"' written with
  | some parameter => .error (.unboundParameter (String.ofList parameter))
  | none => .ok (readReference (plainColons written))

def resolveName (tablePrefix : String) (statement : Statement) (name : String) :
    Except SqlFault String := do
  let reference ← readTable tablePrefix name
  reference.resolve statement

end BoardMigration.Store
