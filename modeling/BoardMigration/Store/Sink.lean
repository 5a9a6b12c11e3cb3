import BoardMigration.Schema.Statement
import BoardMigration.Store.Database
import BoardMigration.Store.Naming
import BoardMigration.Text.Quoted

/-! The gateway to a database. Every insert leaves an existing row as it is, so a migration can be
run again over the same pages. Categories and redirect forums come without numbers: a category is
known by its name and position, a redirect forum by its name and target. -/
namespace BoardMigration.Store

inductive Action where
  | create
  | insert (table : String)
  | category (name : String)
  | count (table : String)
  deriving DecidableEq, Repr

inductive StoreError where
  | closed
  | refused (action : Action) (fault : SqlFault)
  /-- An integer of more than 64 bits. -/
  | overflow
  deriving DecidableEq, Repr

def Action.message : Action → String
  | .create => "Couldn't create tables"
  | .insert table => s!"Couldn't insert into {table}"
  | .category name => s!"Couldn't get category {Text.quoted name}"
  | .count table => s!"Couldn't count rows of {table}"

def StoreError.message : StoreError → String
  | .closed => "Database sink is closed"
  | .refused action fault => s!"{action.message}: {fault.message}"
  | .overflow => "Python int too large to convert to SQLite INTEGER"

abbrev CategoryKey := String × Int

structure Sink where
  database : Database
  tablePrefix : String
  isOpen : Bool := true
  categories : List (CategoryKey × Int) := []
  /-- Whether a transaction is open, as one is that began for a value too large to be bound. -/
  pending : Bool := false

/-- What stops a statement: the database, or a value it cannot hold. -/
inductive Obstacle where
  | sql (fault : SqlFault)
  | overflow
  deriving DecidableEq, Repr

def Obstacle.toError (action : Action) : Obstacle → StoreError
  | .sql fault => .refused action fault
  | .overflow => .overflow

namespace Sink

def connect (database : Database) (tablePrefix : String) : Sink := { database, tablePrefix }

def close (s : Sink) : Sink := { s with isOpen := false }

def noting (s : Sink) (pending : Bool) : Sink := { s with pending }

def isReserved (name : String) : Bool := "sqlite_".toList.isPrefixOf (foldName name).toList

/-- The table of all tables, by its two names, and that of the temporary ones. -/
def master? (name : String) : Option String :=
  if ["sqlite_master", "sqlite_schema"].contains (foldName name) then some "sqlite_master"
  else if ["sqlite_temp_master", "sqlite_temp_schema"].contains (foldName name) then
    some "sqlite_temp_master"
  else none

inductive SchemaStep where
  | drop (table : String)
  | create (shape : Schema.Table)
  | index (index : Schema.Index)
  | seed (seed : Schema.Seed)

def schemaSteps : List SchemaStep :=
  Schema.Table.names.map .drop ++ Schema.Table.all.map .create ++
    (Schema.Index.standard ++ [Schema.Index.searchWords]).map .index ++ Schema.seeds.map .seed

/-- A table that is not there need not be dropped. -/
def runStep (tablePrefix : String) (db : Database) : SchemaStep → Except SqlFault Database
  | .drop name =>
    match resolveName tablePrefix .drop name with
    | .error (.noSuchTable _) => .ok db
    | .error fault => .error fault
    | .ok full =>
      match master? full with
      | some master => .error (.undroppable master)
      | none => .ok (if isReserved full then db else db.drop full)
  | .create shape =>
    match resolveName tablePrefix .create shape.name with
    | .error fault => .error fault
    | .ok full =>
      if isReserved full then .error (.reserved full) else .ok (db.createTable full shape)
  | .index index =>
    match resolveName tablePrefix .create index.name, resolveName tablePrefix .on index.table with
    | .ok full, .ok table => .ok (db.createIndex full table)
    | .error fault, _ => .error fault
    | _, .error fault => .error fault
  | .seed seed =>
    match resolveName tablePrefix .write seed.table with
    | .error fault => .error fault
    | .ok full => .ok (db.seed full seed.row)

/-- Runs statements up to the first that fails. What ran before it stays. -/
def runSteps (tablePrefix : String) (db : Database) : List SchemaStep → Option SqlFault × Database
  | [] => (none, db)
  | step :: rest =>
    match runStep tablePrefix db step with
    | .error fault => (some fault, db)
    | .ok db => runSteps tablePrefix db rest

/-- Creates the tables of the board anew. Each statement is a transaction of its own, unless one is
open: then a failure takes all of them back. -/
def provision (s : Sink) : Except StoreError Unit × Sink :=
  if !s.isOpen then (.error .closed, s)
  else match runSteps s.tablePrefix s.database schemaSteps with
    | (some fault, left) => (.error (.refused .create fault),
        { s with database := if s.pending then s.database else left, pending := false })
    | (none, made) => (.ok (), { s with database := made, categories := [], pending := false })

def table (s : Sink) (statement : Statement) (name : String) : Except Obstacle StoredTable :=
  match readTable s.tablePrefix name with
  | .error fault => .error (.sql fault)
  | .ok reference =>
    match reference.resolve statement with
    | .error fault => .error (.sql fault)
    | .ok full =>
      match s.database.table? full, reference.lateFault? statement with
      | none, _ => .error (.sql (.noSuchTable reference.shown))
      | some _, some fault => .error (.sql fault)
      | some t, none => .ok t

/-- The row that an insert brings: that of the record, or its values in the columns of the prefix.
Values of another kind than their column's are refused. -/
def given (s : Sink) (t : StoredTable) (name : String) (row : Row) : Except SqlFault Row :=
  let own := (readTable s.tablePrefix name).toOption.bind fun reference =>
    (reference.left? .write).bind ownColumns?
  match own with
  | none => .ok row
  | some names =>
    let columns := names.filterMap t.column?
    if let some name := names.find? (t.column? · |>.isNone) then .error (.noColumn t.name name)
    else if columns.length != row.length then .error (.bindings columns.length row.length)
    else
      let cells := columns.zip (row.map (·.2))
      if cells.all fun (column, value) => column.kind.holds value then
        .ok (cells.map fun (column, value) => (column.name, value))
      else .error .mismatch

def write (s : Sink) (name : String) (row : Row) : Except Obstacle Bool × Sink :=
  match s.table .write name with
  | .error obstacle => (.error obstacle, s)
  | .ok t =>
    match s.given t name row with
    | .error fault => (.error (.sql fault), s)
    | .ok row =>
      if !row.fits then (.error .overflow, s)
      else
        let (t, written) := t.insertIfAbsent row
        (.ok written, { s with database := s.database.replace t })

def find (s : Sink) (name : String) (criteria : Row) : Except Obstacle (Option Int) :=
  match s.table .lookup name with
  | .error obstacle => .error obstacle
  | .ok t => if criteria.fits then .ok (t.find? criteria) else .error .overflow

def remember (s : Sink) (key : CategoryKey) (number : Int) : Sink :=
  { s with categories := (key, number) :: s.categories }

def known? (s : Sink) (key : CategoryKey) : Option Int :=
  (s.categories.find? (·.1 == key)).map (·.2)

def categoryRow (key : CategoryKey) : Row :=
  [("cat_name", .text key.1), ("disp_position", .int key.2)]

/-- Number of a category, and whether its row was added for this. -/
def resolveCategory (s : Sink) (key : CategoryKey) : Except Obstacle (Int × Bool) × Sink :=
  match s.known? key with
  | some number => (.ok (number, false), s)
  | none =>
    match s.find "categories" (categoryRow key) with
    | .error obstacle => (.error obstacle, s)
    | .ok (some number) => (.ok (number, false), s.remember key number)
    | .ok none =>
      match s.table .write "categories" with
      | .error obstacle => (.error obstacle, s)
      | .ok t =>
        if t.isFull then (.error (.sql .full), s)
        else
          let number := t.nextNumber
          let (t, _) := t.insertIfAbsent (categoryRow key)
          (.ok (number, true), { s with database := s.database.replace t }.remember key number)

/-- Writes a redirect forum under a number above all others, unless one with its name and target is
stored. -/
def writeRedirect (s : Sink) (row : Row) : Except Obstacle Bool × Sink :=
  let criteria : Row :=
    [("forum_name", row.value "forum_name"), ("redirect_url", row.value "redirect_url")]
  match s.find "forums" criteria, s.table .lookup "forums" with
  | .error obstacle, _ => (.error obstacle, s)
  | .ok _, .error obstacle => (.error obstacle, s)
  | .ok (some _), .ok _ => (.ok false, s)
  | .ok none, .ok t =>
    let number := t.highest?.getD 0 + 1
    match s.write "forums" (row.map fun (column, value) =>
        (column, if column == "id" then .int number else value)) with
    | (.error obstacle, s) => (.error obstacle, s)
    | (.ok _, s) => (.ok true, s)

def writeForum (s : Sink) (forum : Forum) : Except Obstacle Bool × Sink :=
  match s.resolveCategory (forum.categoryName, forum.categoryPosition) with
  | (.error obstacle, s) => (.error obstacle, s)
  | (.ok (category, _), s) =>
    let row := (Record.forum forum).row ++ [("cat_id", .int category)]
    if forum.isRedirect then s.writeRedirect row else s.write "forums" row

def writeRecord (s : Sink) : Record → Except Obstacle Bool × Sink
  | .category c =>
    match s.resolveCategory (c.name, c.position) with
    | (.error obstacle, s) => (.error obstacle, s)
    | (.ok (_, created), s) => (.ok created, s)
  | .forum f => s.writeForum f
  | record => s.write record.table record.row

/-- Whether a transaction is open once a category was asked for. A lookup begins none, and what is
remembered ends none. -/
def categoryPending {α : Type} (s : Sink) (key : CategoryKey) : Except Obstacle α → Bool
  | .ok _ => s.pending && (s.known? key).isSome
  | .error (.sql _) => false
  | .error .overflow => s.pending

/-- Whether a transaction is open once a record was inserted. Only failures of the database take it
back. -/
def insertPending (s : Sink) (record : Record) (answer : Except Obstacle Bool) : Bool :=
  match record, answer with
  | .category c, answer => s.categoryPending (c.name, c.position) answer
  | .forum f, .error .overflow =>
    s.pending || (categoryRow (f.categoryName, f.categoryPosition)).fits
  | _, .error .overflow => true
  | _, _ => false

/-- Inserts a record unless it is stored; says whether a row was written. -/
def insert (s : Sink) (record : Record) : Except StoreError Bool × Sink :=
  if !s.isOpen then (.error .closed, s)
  else
    let (answer, after) := s.writeRecord record
    (answer.mapError (Obstacle.toError (.insert record.table)),
      after.noting (s.insertPending record answer))

def categoryId (s : Sink) (name : String) (position : Int) : Except StoreError Int × Sink :=
  if !s.isOpen then (.error .closed, s)
  else
    let (answer, after) := s.resolveCategory (name, position)
    ((answer.map (·.1)).mapError (Obstacle.toError (.category name)),
      after.noting (s.categoryPending (name, position) answer))

def count (s : Sink) (name : String) : Except StoreError Nat × Sink :=
  if !s.isOpen then (.error .closed, s)
  else
    let answer := (s.table .count name).map (·.rows.length)
    (answer.mapError (Obstacle.toError (.count name)), s.noting false)

end Sink
end BoardMigration.Store
