import BoardMigration.Export.Tree
import BoardMigration.Schema.Dialect
import BoardMigration.Store.Address
import BoardMigration.Store.Sink
import BoardMigration.Text.Quoted

/-! From an address to a database in a tree of files. Only databases that are files can be opened
here; the others lack their drivers. -/
namespace BoardMigration.Store

inductive ConnectError where
  | unreadable
  | unknownKind (name : String)
  | noDriver (package : String)
  /-- A file's address that names a host or a user. -/
  | notLocal (address : Address)
  | cannotOpen
  | badPort (text : String)
  | emptyPort
  | crowdedKind
  deriving DecidableEq, Repr

/-- Whether the database is at fault; a port or a kind that cannot even be read breaks off. -/
def ConnectError.isRefusal : ConnectError → Bool
  | .badPort _ => false
  | .emptyPort => false
  | .crowdedKind => false
  | _ => true

def Address.text (a : Address) : String :=
  let user := a.user.elim "" fun user => user ++ (if a.password.isSome then ":***" else "") ++ "@"
  a.scheme ++ "://" ++ user ++ a.host.getD "" ++ a.port.elim "" (":" ++ ·) ++
    a.database.elim "" ("/" ++ ·) ++ a.query.elim "" ("?" ++ ·)

def ConnectError.cause : ConnectError → String
  | .unreadable => "Could not parse SQLAlchemy URL from given URL string"
  | .unknownKind name => s!"Can't load plugin: sqlalchemy.dialects:{name}"
  | .noDriver package => s!"No module named '{package}'"
  | .notLocal address => s!"Invalid SQLite URL: {address.text}\n" ++
      "Valid SQLite URL forms are sqlite:///:memory: or sqlite:////absolute/path/to/file.db"
  | .cannotOpen => "(sqlite3.OperationalError) unable to open database file"
  | .badPort text => s!"invalid literal for int() with base 10: {Text.quoted text}"
  | .emptyPort => "Port argument must be an integer or None"
  | .crowdedKind => "too many values to unpack (expected 2)"

def ConnectError.message (e : ConnectError) : String :=
  if e.isRefusal then "Couldn't connect to database: " ++ e.cause else e.cause

structure Driver where
  name : String
  package : Option String

def needing (packages : List (String × String)) : List Driver :=
  packages.map fun (name, package) => ⟨name, some package⟩

/-- Drivers of the kinds of databases, the usual one first. -/
def drivers : List (String × List Driver) :=
  let mysql := [("mysqldb", "MySQLdb"), ("pymysql", "pymysql"), ("mysqlconnector", "mysql"),
    ("mariadbconnector", "mariadb"), ("cymysql", "cymysql"), ("pyodbc", "pyodbc"),
    ("aiomysql", "aiomysql"), ("asyncmy", "asyncmy")]
  [("sqlite", [⟨"pysqlite", none⟩, ⟨"aiosqlite", some "aiosqlite"⟩,
      ⟨"pysqlcipher", some "pysqlcipher3"⟩]),
    ("mysql", needing mysql),
    ("mariadb", needing mysql),
    ("postgresql", needing [("psycopg", "psycopg"), ("psycopg2", "psycopg2"),
      ("psycopg2cffi", "psycopg2cffi"), ("pg8000", "pg8000"), ("asyncpg", "asyncpg")]),
    ("oracle", needing [("oracledb", "oracledb"), ("cx_oracle", "cx_Oracle")]),
    ("mssql", needing [("pyodbc", "pyodbc"), ("pymssql", "pymssql"), ("aioodbc", "aioodbc")])]

/-- The driver that a kind names, or its usual one. -/
def driver (scheme : String) : Except ConnectError Driver :=
  let pieces := (Text.split '+' scheme.toList).map String.ofList
  let known (kind : String) (choose : List Driver → Option Driver) :=
    match (drivers.lookup kind).bind choose with
    | some driver => .ok driver
    | none => .error (.unknownKind (".".intercalate pieces))
  match pieces with
  | [kind] => known kind (·.head?)
  | [kind, name] => known kind (·.find? (·.name == name))
  | _ => .error .crowdedKind

def Address.checkPort (a : Address) : Except ConnectError Unit :=
  match a.port with
  | none => .ok ()
  | some "" => .error .emptyPort
  | some port => if (Text.readInt? port.toList).isSome then .ok () else .error (.badPort port)

inductive Place where
  | memory
  | file (path : Export.Path)
  deriving DecidableEq, Repr

/-- Whether an address names a user, a host or a port; none does so with an empty text or a zero. -/
def Address.namesHost (a : Address) : Bool :=
  [a.user, a.password, a.host].any (·.any (· != "")) ||
    a.port.any fun port => Text.readInt? port.toList != some 0

def locate (text : String) : Except ConnectError Place := do
  let address ←
    match Address.read? (normalizeAddress text) with
    | some address => .ok address
    | none => .error .unreadable
  address.checkPort
  let driver ← driver address.scheme
  match driver.package with
  | some package => .error (.noDriver package)
  | none =>
    if address.namesHost then .error (.notLocal address)
    else match address.database with
      | none => .ok .memory
      | some "" => .ok .memory
      | some ":memory:" => .ok .memory
      | some path => .ok (.file (.ofString path))

inductive Medium where
  | database (database : Database)
  /-- Opening succeeds, but every statement will be refused. -/
  | garbage
  deriving DecidableEq

/-- An open file: what it holds, and where it is from the root down, if it is in the tree. -/
structure Opened where
  medium : Medium
  names : Option (List String)

/-- Double dots cancel what comes before them, whatever links there are. -/
def lexical (parts : List String) : List String :=
  (parts.foldl (fun done part => if part == ".." then done.tail else part :: done) []).reverse

/-- Opens a file; one that does not exist is created, but not its directory. -/
def openFile (fs : Export.FileSystem) (path : Export.Path) : Except ConnectError Opened :=
  let parts := lexical (if path.absolute then path.parts else fs.home ++ path.parts)
  match fs.find? ⟨true, parts⟩ with
  | some (.directory _) => .error .cannotOpen
  | some (.database names db) => .ok ⟨.database db, some names⟩
  | some (.page bytes) =>
    if bytes.isEmpty then .ok ⟨.database {}, some parts⟩ else .ok ⟨.garbage, none⟩
  | none =>
    match parts.getLast?, fs.find? ⟨true, parts.dropLast⟩ with
    | some name, some (.directory within) =>
      if (within.listing.lookup name).isSome then .error .cannotOpen
      else .ok ⟨.database {}, some (within.names ++ [name])⟩
    | _, _ => .error .cannotOpen

def connect (fs : Export.FileSystem) (text : String) : Except ConnectError Opened := do
  match ← locate text with
  | .memory => .ok ⟨.database {}, none⟩
  | .file path => openFile fs path

def Opened.save (opened : Opened) (fs : Export.FileSystem) (db : Database) : Export.FileSystem :=
  match opened.names with
  | some names => { fs with root := Export.putAt (.database db) names fs.root }
  | none => fs

def garbageMessage : String := "(sqlite3.DatabaseError) file is not a database"

end BoardMigration.Store
