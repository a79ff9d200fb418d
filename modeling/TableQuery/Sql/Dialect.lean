/-!
# Dialects

The three SQL dialects a query can be compiled for, how each writes identifiers and parameters, and
the names that stand for them in configurations.
-/

namespace TableQuery

/-- A dialect of SQL. -/
inductive Dialect where
  | sqlite
  | sqlServer
  | postgreSql
  deriving DecidableEq, Repr

namespace Dialect

/-- All dialects. -/
def all : List Dialect := [sqlite, sqlServer, postgreSql]

/-- The name of a dialect. -/
def name : Dialect → String
  | sqlite => "sqlite"
  | sqlServer => "sqlserver"
  | postgreSql => "postgresql"

/-- Whether a dialect is that of SQLite. -/
def isSqlite (d : Dialect) : Bool := d == sqlite

/-- Whether a dialect is that of SQL Server. -/
def isSqlServer (d : Dialect) : Bool := d == sqlServer

/-- Whether a dialect is that of PostgreSQL. -/
def isPostgreSql (d : Dialect) : Bool := d == postgreSql

/-- The characters around a quoted identifier. -/
def quotes : Dialect → Char × Char
  | sqlite | sqlServer => ('[', ']')
  | postgreSql => ('"', '"')

/-- The characters of a name with each closing quote doubled. -/
def doubled (close : Char) : List Char → List Char
  | [] => []
  | c :: cs => if c = close then c :: c :: doubled close cs else c :: doubled close cs

/-- A quoted identifier; a closing quote inside the name is doubled. -/
def quoteIdentifier (d : Dialect) (name : String) : String :=
  String.ofList (d.quotes.1 :: (doubled d.quotes.2 name.toList ++ [d.quotes.2]))

/-- The character that marks a parameter. -/
def marker : Dialect → Char
  | sqlite => '$'
  | sqlServer | postgreSql => '@'

/-- The mark of a named parameter. -/
def parameterMark (d : Dialect) (name : String) : String := String.ofList (d.marker :: name.toList)

/-- The mark of a numbered parameter. -/
def placeholder (d : Dialect) (number : Nat) : String := d.parameterMark s!"p{number}"

/-- The keyword of pattern matching that ignores case. -/
def likeKeyword : Dialect → String
  | postgreSql => "ILIKE"
  | sqlite | sqlServer => "LIKE"

end Dialect

end TableQuery
