import TableQuery.Connection.Url
import TableQuery.Error
import TableQuery.Text.Case

/-!
# Choosing a dialect

A dialect is chosen by its name, by the scheme of a connection URL, or by the name of the type of a
connection.
-/

namespace TableQuery.Dialect

/-- The dialect with a given name, in any letter case. -/
def parse (s : String) : Except Error Dialect :=
  let word := Text.toAsciiLower s
  if word = "sqlite" then .ok .sqlite
  else if word = "sqlserver" ∨ word = "mssql" then .ok .sqlServer
  else if word = "postgresql" ∨ word = "postgres" then .ok .postgreSql
  else .error (.invalidArgument (.unknownDialect s))

/-- Whether a word occurs in a text. -/
def occursIn (word : List Char) : List Char → Bool
  | [] => word.isEmpty
  | c :: cs => word.isPrefixOf (c :: cs) || occursIn word cs

/-- The words in the names of connection types that tell a dialect, in the order they are looked
for. -/
def connectionWords : List (String × Dialect) :=
  [("sqlite", .sqlite), ("tiberius", .sqlServer), ("mssql", .sqlServer), ("sqlserver", .sqlServer),
    ("sqlconnection", .sqlServer), ("postgres", .postgreSql), ("npgsql", .postgreSql)]

/-- The dialect that the name of a connection type tells, in any letter case. -/
def ofConnectionType? (typeName : String) : Option Dialect :=
  let name := (Text.toAsciiLower typeName).toList
  (connectionWords.find? fun (word, _) => occursIn word.toList name).map Prod.snd

/-- The dialect of a connection URL. -/
def ofUrl (url : String) : Except Error Dialect :=
  match Url.scheme url with
  | .error fault => .error (.invalidArgument (.invalidUrl url fault))
  | .ok scheme =>
    if scheme = "sqlite" ∨ scheme = "file" then .ok .sqlite
    else if scheme = "mssql" ∨ scheme = "sqlserver" then .ok .sqlServer
    else if scheme = "postgres" ∨ scheme = "postgresql" then .ok .postgreSql
    else .error (.invalidArgument (.urlScheme scheme))

end TableQuery.Dialect
