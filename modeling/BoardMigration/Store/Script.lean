import BoardMigration.Schema.Literal
import BoardMigration.Store.Database

/-! Databases as scripts: the statements that make the tables, the indexes and the rows. A script that
was written here can be read again. -/
namespace BoardMigration.Store

open Schema

/-- A name as it stands between quotes. -/
def quotedName (name : String) : String := name.replace "\"" "\"\""

/-- What comes before a table's or an index's own name in its full one. -/
def prefixIn? (full own : String) : Option String :=
  if own.toList.isSuffixOf full.toList then
    some (String.ofList (full.toList.take (full.length - own.length)))
  else none

/-- Where the tables of a prefix are. -/
def placeOf (tablePrefix : String) : Schema.Place := ⟨.sqlite, quotedName tablePrefix⟩

def StoredTable.place (t : StoredTable) : Schema.Place :=
  placeOf ((prefixIn? t.name t.shape.name).getD "")

def StoredTable.insertStart (t : StoredTable) : String :=
  "INSERT INTO " ++ t.place.table t.shape.name ++ " (" ++
    t.place.columnList (t.shape.columns.map (·.name)) ++ ") VALUES ("

def StoredTable.statements (t : StoredTable) : List String :=
  t.place.createTable t.shape :: t.rows.map fun row =>
    t.insertStart ++ commas (row.map fun (_, value) => literal value) ++ ")"

def allIndexes : List Index := Index.standard ++ [.searchWords]

def StoredIndex.statement? (i : StoredIndex) : Option String :=
  allIndexes.findSome? fun index => do
    let tablePrefix ← prefixIn? i.name index.name
    if i.table == tablePrefix ++ index.table then some ((placeOf tablePrefix).createIndex index) else none

/-- The statements that make a database. -/
def Database.statements (db : Database) : List String :=
  db.tables.flatMap StoredTable.statements ++ db.indexes.filterMap StoredIndex.statement?

def Database.script (db : Database) : String := String.join (db.statements.map (· ++ ";\n"))

/-- Reads a quoted name. -/
def readName : List Char → Option (List Char × List Char)
  | '"' :: '"' :: rest => (readName rest).map fun (name, rest) => ('"' :: name, rest)
  | '"' :: rest => some ([], rest)
  | c :: rest => (readName rest).map fun (name, rest) => (c :: name, rest)
  | [] => none

/-- Adds the table that a statement makes. -/
def readTable? (db : Database) (name : String) (text : List Char) : Option (Database × List Char) :=
  Table.all.findSome? fun shape => do
    let tablePrefix ← prefixIn? name shape.name
    let rest ← behind? ((placeOf tablePrefix).createTable shape ++ ";\n") text
    pure (db.createTable name shape, rest)

def readIndex? (db : Database) (name : String) (text : List Char) : Option (Database × List Char) :=
  allIndexes.findSome? fun index => do
    let tablePrefix ← prefixIn? name index.name
    let rest ← behind? ((placeOf tablePrefix).createIndex index ++ ";\n") text
    pure (db.createIndex name (tablePrefix ++ index.table), rest)

def readRow? (db : Database) (name : String) (text : List Char) : Option (Database × List Char) := do
  let t ← db.table? name
  let rest ← behind? t.insertStart text
  let names := t.shape.columns.map (·.name)
  let (values, rest) ← readLiterals names.length rest
  let rest ← behind? ");\n" rest
  pure (db.replace { t with rows := t.rows ++ [names.zip values] }, rest)

/-- Carries out the first statement of a script. -/
def readStatement? (db : Database) (text : List Char) : Option (Database × List Char) :=
  let start (words : String) := ((behind? words text).bind readName).map fun (name, _) => String.ofList name
  match start "CREATE TABLE \"", start "CREATE INDEX \"", start "INSERT INTO \"" with
  | some name, _, _ => readTable? db name text
  | _, some name, _ => readIndex? db name text
  | _, _, some name => readRow? db name text
  | _, _, _ => none

/-- Carries out a script; none if it was not written here. `fuel` bounds the statements. -/
def readScript? (db : Database) : (fuel : Nat) → List Char → Option Database
  | _, [] => some db
  | 0, _ => none
  | fuel + 1, text => do
    let (db, rest) ← readStatement? db text
    readScript? db fuel rest

def Database.ofScript? (text : String) : Option Database := readScript? {} text.length text.toList

end BoardMigration.Store
