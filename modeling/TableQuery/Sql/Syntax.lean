import TableQuery.Expr.Basic
import TableQuery.Sql.Dialect

/-!
# The syntax of statements

The part of SQL that queries are compiled to, as syntax trees.  Values and conditions are separate
sorts, and parentheses are nodes of their own: a tree means what it looks like, whether or not its
text could be read in another way.  A value to be bound stands in the tree at its place; the numbers
of parameters arise only when the tree is written out.

A column and the table it is read from both carry the identity of the row they stand for.  It leaves
no trace in the text.
-/

namespace TableQuery.Sql

/-- The functions that statements call.  Their names depend on the dialect. -/
inductive Routine where
  | position
  | charIndex
  | replace
  | lower
  | upper
  | trim
  | trimStart
  | trimEnd
  | substring
  | suffix
  | length
  | abs
  | round
  | floor
  | ceiling
  | greatest
  | least
  | power
  | squareRoot
  | naturalLog
  | decimalLog
  | coalesce
  | wholeSeconds
  | civilTime
  | civilDate
  | formatTime
  | truncateTime
  | now
  | localNow
  | universalNow
  deriving DecidableEq

/-- The name of a function. -/
def Routine.name (d : Dialect) : Routine → String
  | position => match d with
    | .postgreSql => "strpos"
    | _ => "instr"
  | charIndex => "CHARINDEX"
  | replace => pick "replace" "REPLACE"
  | lower => pick "lower" "LOWER"
  | upper => pick "upper" "UPPER"
  | trim => pick "trim" "TRIM"
  | trimStart => pick "ltrim" "LTRIM"
  | trimEnd => pick "rtrim" "RTRIM"
  | substring => pick "substr" "SUBSTRING"
  | suffix => pick "right" "RIGHT"
  | length => pick "length" "LEN"
  | abs => pick "abs" "ABS"
  | round => pick "round" "ROUND"
  | floor => pick "floor" "FLOOR"
  | ceiling => pick "ceil" "CEILING"
  | greatest => match d with
    | .sqlite => "max"
    | _ => "greatest"
  | least => match d with
    | .sqlite => "min"
    | _ => "least"
  | power => pick "power" "POWER"
  | squareRoot => pick "sqrt" "SQRT"
  | naturalLog => pick "ln" "LOG"
  | decimalLog => match d with
    | .sqlite => "log10"
    | .postgreSql => "log"
    | .sqlServer => "LOG10"
  | coalesce => "COALESCE"
  | wholeSeconds => "FLOOR"
  | civilTime => "datetime"
  | civilDate => "date"
  | formatTime => "strftime"
  | truncateTime => "date_trunc"
  | now => "now"
  | localNow => "GETDATE"
  | universalNow => "GETUTCDATE"
where
  /-- One of two names: SQL Server's functions are written in capitals. -/
  pick (usual sqlServer : String) : String := if d = .sqlServer then sqlServer else usual

/-- The types that statements convert to. -/
inductive TypeName where
  | integer
  | real
  | text
  | bigint
  | float
  | nvarchar
  | bit
  | dateTime
  | date
  | uniqueIdentifier
  | longInteger
  | doublePrecision
  | characterText
  | boolean
  | timestamp
  | uuid
  deriving DecidableEq

/-- The text of a type. -/
def TypeName.name : TypeName → String
  | integer => "INTEGER"
  | real => "REAL"
  | text => "TEXT"
  | bigint => "BIGINT"
  | float => "FLOAT"
  | nvarchar => "NVARCHAR(MAX)"
  | bit => "BIT"
  | dateTime => "DATETIME2"
  | date => "DATE"
  | uniqueIdentifier => "UNIQUEIDENTIFIER"
  | longInteger => "bigint"
  | doublePrecision => "double precision"
  | characterText => "text"
  | boolean => "boolean"
  | timestamp => "timestamp"
  | uuid => "uuid"

/-- The type that a storage class is converted to, if the dialect has a conversion for it. -/
def TypeName.of? (d : Dialect) (ty : ColumnType) : Option TypeName :=
  match d, ty with
  | _, .blob | _, .enum => none
  | .sqlite, .int | .sqlite, .bool => some integer
  | .sqlite, .float => some real
  | .sqlite, .text | .sqlite, .dateTime | .sqlite, .guid => some text
  | .sqlServer, .int => some bigint
  | .sqlServer, .float => some float
  | .sqlServer, .text => some nvarchar
  | .sqlServer, .bool => some bit
  | .sqlServer, .dateTime => some dateTime
  | .sqlServer, .guid => some uniqueIdentifier
  | .postgreSql, .int => some longInteger
  | .postgreSql, .float => some doublePrecision
  | .postgreSql, .text => some characterText
  | .postgreSql, .bool => some boolean
  | .postgreSql, .dateTime => some timestamp
  | .postgreSql, .guid => some uuid

/-- The parts of a date and time that can be read or added to. -/
inductive DateField where
  | year
  | month
  | day
  | hour
  | minute
  | second
  deriving DecidableEq

/-- The name of a part of a date and time. -/
def DateField.name : DateField → String
  | year => "YEAR"
  | month => "MONTH"
  | day => "DAY"
  | hour => "HOUR"
  | minute => "MINUTE"
  | second => "SECOND"

/-- The code of a part of a date and time in a format. -/
def DateField.code : DateField → String
  | year => "%Y"
  | month => "%m"
  | day => "%d"
  | hour => "%H"
  | minute => "%M"
  | second => "%S"

/-- The name of the unit of a part of a date and time. -/
def DateField.unit : DateField → String
  | year => "years"
  | month => "months"
  | day => "days"
  | hour => "hours"
  | minute => "minutes"
  | second => "seconds"

/-- The name of a part of a date and time among the fields of an interval. -/
def DateField.intervalField : DateField → String
  | minute => "mins"
  | second => "secs"
  | f => f.unit

/-- A column name, qualified by the name of its table where names of several tables are in reach. -/
structure ColumnName where
  qualifier : Option String
  name : String
  row : SourceId
  deriving DecidableEq

/-- A sort key of a statement. -/
structure OrderTerm where
  column : ColumnName
  ascending : Bool
  deriving DecidableEq

/-- What a statement returns: all columns, some of them, a one for each row, or the number of
rows. -/
inductive Output where
  | all
  | columns (names : List ColumnName)
  | one
  | count (big : Bool)
  deriving DecidableEq

/-- The limit at the end of a statement: a count, where minus one means no limit, and an offset; or
an offset and a count to fetch. -/
inductive Limit where
  | none
  | limitOffset (count : Int) (skipped : Option Nat)
  | offsetFetch (skipped : Nat) (fetched : Option Nat)
  deriving DecidableEq

mutual

/-- A value. -/
inductive Scalar where
  /-- The null literal. -/
  | null
  /-- A number written out. -/
  | number (n : Nat)
  /-- A truth value. -/
  | truth (b : Bool)
  /-- A text written out between apostrophes. -/
  | text (s : String)
  /-- A value to be bound. -/
  | param (v : Value)
  /-- A column. -/
  | column (c : ColumnName)
  /-- A call of a function. -/
  | call (r : Routine) (args : List Scalar)
  /-- A conversion. -/
  | cast (x : Scalar) (ty : TypeName)
  /-- A part of a date and time, by `EXTRACT`. -/
  | extract (field : DateField) (x : Scalar)
  /-- The day of the week, by `EXTRACT`. -/
  | extractWeekday (x : Scalar)
  /-- A part of a date and time, by `DATEPART`. -/
  | datePart (field : DateField) (x : Scalar)
  /-- The day of the week, by `DATEPART`. -/
  | datePartWeekday (x : Scalar)
  /-- The number of the day that weeks start with. -/
  | dateFirst
  /-- A date and time moved by an amount, by `DATEADD`. -/
  | dateAdd (field : DateField) (amount x : Scalar)
  /-- An interval. -/
  | interval (field : DateField) (amount : Scalar)
  /-- The local time of the server. -/
  | localTimestamp
  /-- A time shown in a time zone. -/
  | atTimeZone (x : Scalar) (zone : String)
  /-- An operator between two values. -/
  | operator (op : BinaryOp) (l r : Scalar)
  /-- Two texts joined. -/
  | concat (l r : Scalar)
  /-- A number with the opposite sign. -/
  | negate (x : Scalar)
  /-- A number with all bits flipped. -/
  | complement (x : Scalar)
  /-- One of two values, by a condition. -/
  | case (test : Cond) (yes no : Scalar)
  /-- A value in parentheses. -/
  | paren (x : Scalar)

/-- A condition. -/
inductive Cond where
  /-- A comparison of two values. -/
  | compare (op : BinaryOp) (l r : Scalar)
  /-- Both of two conditions. -/
  | and (l r : Cond)
  /-- One of two conditions. -/
  | or (l r : Cond)
  /-- The opposite of a condition. -/
  | not (c : Cond)
  /-- Whether a value is null. -/
  | isNull (x : Scalar)
  /-- Whether a value is not null. -/
  | isNotNull (x : Scalar)
  /-- Whether a value is among others. -/
  | inList (x : Scalar) (members : List Scalar)
  /-- Whether a value is among the rows of a statement. -/
  | inSelect (x : Scalar) (s : Select)
  /-- Whether a text matches a pattern, ignoring case; the pattern may escape its wildcards. -/
  | like (x pattern : Scalar) (escaped : Bool)
  /-- Whether a statement has a row. -/
  | exists (s : Select)
  /-- A condition in parentheses. -/
  | paren (c : Cond)

/-- What a statement reads: a table, or the rows of another statement. -/
inductive Source where
  /-- A table. -/
  | table (name : String) (row : SourceId)
  /-- The rows of a statement, under a name. -/
  | derived (s : Select) (label : String)

/-- A `SELECT` statement. -/
structure Select where
  /-- Whether equal rows count once. -/
  distinct : Bool
  /-- The row limit written before the output. -/
  top : Option Nat
  /-- What is returned. -/
  output : Output
  /-- What is read. -/
  source : Source
  /-- The conditions a row must satisfy, all of them. -/
  filters : List Cond
  /-- The sort keys, the most significant first. -/
  order : List OrderTerm
  /-- The row limit written at the end. -/
  limit : Limit

end

end TableQuery.Sql
