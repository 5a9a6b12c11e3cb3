import BoardMigration.Schema.Table

/-! A database file: tables with their rows in the order of insertion, and indexes. The case of ASCII
letters does not tell names apart. -/
namespace BoardMigration.Store

abbrev Row := List (String × Value)

def Row.value (row : Row) (column : String) : Value :=
  ((row.find? (·.1 == column)).map (·.2)).getD .null

/-- Names that ASCII case alone tells apart are one name. -/
def foldName (name : String) : String := name.map Char.toLower

structure StoredTable where
  name : String
  shape : Schema.Table
  rows : List Row
  deriving DecidableEq

structure StoredIndex where
  name : String
  table : String
  deriving DecidableEq

structure Database where
  tables : List StoredTable := []
  indexes : List StoredIndex := []
  deriving DecidableEq

def minInt : Int := -9223372036854775808

def maxInt : Int := 9223372036854775807

/-- Integers of a database take 64 bits. -/
def Value.fits : Value → Bool
  | .int n => minInt ≤ n && n ≤ maxInt
  | _ => true

def Row.fits (row : Row) : Bool := row.all fun (_, value) => Value.fits value

namespace StoredTable

def number? (row : Row) : Option Int :=
  match row.value "id" with
  | .int n => some n
  | _ => none

def numbers (t : StoredTable) : List Int := t.rows.filterMap number?

def highest? (t : StoredTable) : Option Int := t.numbers.max?

/-- One above the highest number; if there is none above, the first free one from 1 up. -/
def nextNumber (t : StoredTable) : Int :=
  match t.highest? with
  | none => 1
  | some n =>
    if n < maxInt then n + 1
    else (((List.range (t.rows.length + 1)).map fun (i : Nat) => (i : Int) + 1).find?
      fun m => m ≤ maxInt && !t.numbers.contains m).getD 1

def isFull (t : StoredTable) : Bool := t.numbers.contains t.nextNumber

/-- A row of all columns: the values given, a fresh number where the key is null, and the defaults
elsewhere. -/
def complete (t : StoredTable) (given : Row) : Row :=
  t.shape.columns.map fun column =>
    let value :=
      match given.find? (·.1 == column.name) with
      | some (_, value) => value
      | none => column.default?.getD .null
    (column.name, if column.kind == .key && value == .null then .int t.nextNumber else value)

/-- Whether a column that must not be null is null. -/
def lacks (t : StoredTable) (row : Row) : Bool :=
  t.shape.columns.any fun column => column.default?.isSome && row.value column.name == .null

def clashes (t : StoredTable) (row : Row) : Bool :=
  !t.shape.key.isEmpty &&
    t.rows.any fun stored => t.shape.key.all fun column => stored.value column == row.value column

def column? (t : StoredTable) (name : String) : Option Schema.Column :=
  t.shape.columns.find? fun column => foldName column.name == foldName name

/-- Adds a row unless its key is taken or it lacks a value; says whether it did. -/
def insertIfAbsent (t : StoredTable) (given : Row) : StoredTable × Bool :=
  let row := t.complete given
  if t.lacks row || t.clashes row then (t, false) else ({ t with rows := t.rows ++ [row] }, true)

/-- The lowest number of a row with all the given values. -/
def find? (t : StoredTable) (criteria : Row) : Option Int :=
  ((t.rows.filter fun row => criteria.all fun (column, value) => row.value column == value).filterMap
    number?).min?

end StoredTable

namespace Database

def table? (db : Database) (name : String) : Option StoredTable :=
  db.tables.find? fun t => foldName t.name == foldName name

def replace (db : Database) (table : StoredTable) : Database :=
  { db with tables := db.tables.map fun t =>
      if foldName t.name == foldName table.name then table else t }

/-- Removes a table and its indexes. -/
def drop (db : Database) (name : String) : Database :=
  { tables := db.tables.filter fun t => foldName t.name != foldName name
    indexes := db.indexes.filter fun i => foldName i.table != foldName name }

def createTable (db : Database) (name : String) (shape : Schema.Table) : Database :=
  { db with tables := db.tables ++ [⟨name, shape, []⟩] }

def createIndex (db : Database) (name table : String) : Database :=
  { db with indexes := db.indexes ++ [⟨name, table⟩] }

/-- Adds a row that every board begins with. -/
def seed (db : Database) (name : String) (row : Row) : Database :=
  match db.table? name with
  | some t => db.replace (t.insertIfAbsent row).1
  | none => db

def objects (db : Database) : List (String × String) :=
  db.indexes.map (("index", ·.name)) ++ db.tables.map (("table", ·.name))

end Database
end BoardMigration.Store
