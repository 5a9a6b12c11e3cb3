import BoardMigration.Schema.Dialect
import BoardMigration.Schema.Table

/-! SQL text. Names are quoted as they stand; string literals double their quotes. -/
namespace BoardMigration.Schema

def doubleQuotes : List Char → List Char
  | [] => []
  | c :: rest => if c == '\'' then '\'' :: '\'' :: doubleQuotes rest else c :: doubleQuotes rest

/-- A string between single quotes. -/
def stringLiteral (text : List Char) : List Char := '\'' :: doubleQuotes text ++ ['\'']

def literal : Value → String
  | .null => "NULL"
  | .int n => toString n
  | .text s => String.ofList (stringLiteral s.toList)

def commas (parts : List String) : String := ", ".intercalate parts

/-- Where a board's tables are: a database and the prefix of their names. -/
structure Place where
  dialect : Dialect
  tablePrefix : String
  deriving DecidableEq, Repr

namespace Place

variable (place : Place)

def caps : Capabilities := place.dialect.capabilities

def quote (name : String) : String := place.caps.quote ++ name ++ place.caps.quote

def table (name : String) : String := place.quote (place.tablePrefix ++ name)

def columnList (columns : List String) : String := commas (columns.map place.quote)

def columnType : ColumnKind → String
  | .key => place.caps.key
  | .integer => place.caps.integer
  | .mediumInt => place.caps.mediumInt
  | .smallInt => place.caps.smallInt
  | .tinyInt => place.caps.tinyInt
  | .flag => place.caps.flag
  | .real => place.caps.real
  | .text => "TEXT"
  | .varchar length => s!"VARCHAR({length})"

def column (c : Column) : String :=
  place.quote c.name ++ " " ++ place.columnType c.kind ++
    c.default?.elim "" fun value => " NOT NULL DEFAULT " ++ literal value

def drops : List String := Table.names.map fun name => "DROP TABLE IF EXISTS " ++ place.table name

/-- The table of search words differs too much between databases for the common form. -/
def createSearchWords : String :=
  let (id, word) := (place.quote "id", place.quote "word")
  let (parts, final) : List String × String :=
    match place.dialect with
    | .mysql => ([s!"{id} MEDIUMINT(8) UNSIGNED NOT NULL AUTO_INCREMENT",
        s!"{word} VARCHAR(20) BINARY NOT NULL DEFAULT ''", s!"PRIMARY KEY ({word})",
        "KEY " ++ place.quote (place.tablePrefix ++ Index.searchWords.name) ++ s!" ({id})"],
        " ENGINE=MyISAM")
    | .postgresql => ([s!"{id} SERIAL", s!"{word} VARCHAR(20) NOT NULL DEFAULT ''",
        s!"PRIMARY KEY ({word})"], "")
    | .sqlite => ([s!"{id} INTEGER NOT NULL", s!"{word} VARCHAR(20) NOT NULL DEFAULT ''",
        s!"PRIMARY KEY ({id})", s!"UNIQUE ({word})"], "")
  "CREATE TABLE " ++ place.table "search_words" ++ " (" ++ commas parts ++ ")" ++ final

def createTable (t : Table) : String :=
  if t.name == "search_words" then place.createSearchWords
  else
    let key := if t.key.isEmpty then [] else ["PRIMARY KEY (" ++ place.columnList t.key ++ ")"]
    let parts := t.columns.map place.column ++ key
    "CREATE TABLE " ++ place.table t.name ++ " (" ++ commas parts ++ ")" ++
      if t.inMemory then place.caps.memoryTableEnd else place.caps.tableEnd

def indexes : List Index :=
  if place.dialect == .mysql then Index.standard else Index.standard ++ [.searchWords]

def createIndex (index : Index) : String :=
  "CREATE " ++ (if index.unique then place.caps.unique else "") ++ "INDEX " ++
    place.quote (place.tablePrefix ++ index.name) ++ " ON " ++ place.table index.table ++
    " (" ++ place.columnList index.columns ++ ")"

def creates : List String := Table.all.map place.createTable ++ place.indexes.map place.createIndex

def seed (s : Seed) : String :=
  "INSERT INTO " ++ place.table s.table ++ " (" ++ place.columnList (s.row.map (·.1)) ++
    ") VALUES (" ++ commas (s.row.map fun (_, value) => literal value) ++ ")"

/-- The statements that set up an empty board, dropping any tables of the same names first. -/
def provision : List String := place.drops ++ place.creates ++ seeds.map place.seed

/-- Columns and parameters of an insert; a parameter is named like its column. -/
def insertBody (table : String) (columns : List String) : String :=
  " " ++ place.table table ++ " (" ++ place.columnList columns ++ ") VALUES (" ++
    commas (columns.map (":" ++ ·)) ++ ")"

/-- An insert that leaves a row with the same key as it is. -/
def insertIfAbsent (table : String) (columns : List String) : String :=
  place.caps.insertStart ++ place.insertBody table columns ++ place.caps.insertEnd

/-- An insert of a row that the database numbers. -/
def insertNumbered (table : String) (columns : List String) : String :=
  "INSERT INTO" ++ place.insertBody table columns ++
    if place.caps.returnsId then " RETURNING " ++ place.quote "id" else ""

end Place
end BoardMigration.Schema
