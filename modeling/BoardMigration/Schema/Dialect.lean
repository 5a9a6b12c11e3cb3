import BoardMigration.Text.Case

/-! The databases a board can be written to, and how their SQL differs. -/
namespace BoardMigration.Schema

inductive Dialect where
  | mysql | postgresql | sqlite
  deriving DecidableEq, Repr

def Dialect.name : Dialect → String
  | mysql => "mysql"
  | postgresql => "postgresql"
  | sqlite => "sqlite"

/-- Column types, keywords and insert syntax of one database. -/
structure Capabilities where
  integer : String
  mediumInt : String
  smallInt : String
  tinyInt : String
  flag : String
  real : String
  key : String
  unique : String
  tableEnd : String
  memoryTableEnd : String
  insertStart : String
  insertEnd : String
  /-- Whether an insert can give back the number of the new row. -/
  returnsId : Bool
  quote : String
  deriving DecidableEq, Repr

namespace Dialect

def capabilities : Dialect → Capabilities
  | mysql => {
      integer := "INT(10) UNSIGNED", mediumInt := "MEDIUMINT(8) UNSIGNED",
      smallInt := "SMALLINT(6)", tinyInt := "TINYINT(3) UNSIGNED", flag := "TINYINT(1)",
      real := "FLOAT", key := "INT(10) UNSIGNED NOT NULL AUTO_INCREMENT", unique := "UNIQUE ",
      tableEnd := " ENGINE=MyISAM", memoryTableEnd := " ENGINE=MEMORY",
      insertStart := "INSERT IGNORE INTO", insertEnd := "", returnsId := false, quote := "\x60" }
  | postgresql => {
      integer := "INT", mediumInt := "INT", smallInt := "SMALLINT", tinyInt := "SMALLINT",
      flag := "SMALLINT", real := "REAL", key := "SERIAL", unique := "", tableEnd := "",
      memoryTableEnd := "", insertStart := "INSERT INTO", insertEnd := " ON CONFLICT DO NOTHING",
      returnsId := true, quote := "\"" }
  | sqlite => {
      integer := "INTEGER", mediumInt := "INTEGER", smallInt := "INTEGER", tinyInt := "INTEGER",
      flag := "INTEGER", real := "FLOAT", key := "INTEGER NOT NULL", unique := "", tableEnd := "",
      memoryTableEnd := "", insertStart := "INSERT OR IGNORE INTO", insertEnd := "",
      returnsId := false, quote := "\"" }

/-- A database by any of its usual names; what follows a plus sign names a driver and is ignored. -/
def ofName? (name : String) : Option Dialect :=
  match String.ofList ((Text.lower name).toList.takeWhile (· != '+')) with
  | "mysql" => some mysql
  | "mariadb" => some mysql
  | "postgresql" => some postgresql
  | "postgres" => some postgresql
  | "sqlite" => some sqlite
  | _ => none

end Dialect

def unsupported (name : String) : String := s!"Unsupported database type: {name}"

end BoardMigration.Schema
