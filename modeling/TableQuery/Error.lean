import TableQuery.Connection.Fault
import TableQuery.Expr.Func
import TableQuery.Expr.Operator
import TableQuery.Guid
import TableQuery.Number.Integer
import TableQuery.Query.Terminal
import TableQuery.Sql.Dialect

/-!
# Errors

Everything that can go wrong while a query is built or compiled.  A cause says what is wrong as
data; its wording is in one function.  An error is a cause together with the earlier causes that led
to it, and its message shows them all, the latest first.
-/

namespace TableQuery

/-- What a column reference is wanted for. -/
inductive ColumnRole where
  | ordering
  | projection
  deriving DecidableEq

/-- Why an expression has no SQL form where it stands. -/
inductive ExpressionFault where
  | custom (message : String)
  | constant (node : String)
  | countNotConstant (method node : String)
  | notColumn (role : ColumnRole) (node : String)
  | literalPredicate (kind : Option ColumnType)
  | typedPredicate (node : String) (ty : ColumnType)
  | comparisonWithNull (op : BinaryOp)
  | conversion (ty : ColumnType) (dialect : Dialect)
  | membershipColumns (count : Nat)
  | membershipTerminal (terminal : Terminal)
  | pagedExists
  | existsTerminal (terminal : Terminal)
  | correlatedExists (table : String)
  | correlatedSubquery (table : String)
  | lastOverPage (terminal : Terminal)
  | patternKind (func : Func) (kind : Option ColumnType)
  deriving DecidableEq

/-- How many arguments an operation wants. -/
inductive Expected where
  | none
  | one
  | atMostOne
  deriving DecidableEq

/-- Why an argument is of no use. -/
inductive ArgumentFault where
  | custom (message : String)
  | afterTerminal (method : String) (terminal : Terminal)
  | noSelection
  | operationArity (method : String) (expected : Expected) (got : Nat)
  | notBoolean (method : String) (ty : ColumnType)
  | negativeCount (method : String) (count : Int)
  | countKind (method : String) (kind : Option ColumnType)
  | callArity (func : Func) (got : Nat)
  | nullPattern (func : Func)
  | substringRange (start : Int)
  | substringKind (kind : Option ColumnType)
  | unknownDialect (name : String)
  | invalidUrl (url : String) (fault : Url.Fault)
  | urlScheme (scheme : String)
  | connectionType (name : String)
  | noDialect
  | dialectConflict (other : String) (otherDialect : Dialect) (first : String) (dialect : Dialect)
  deriving DecidableEq

/-- Why a table description is not consistent. -/
inductive SchemaFault where
  | custom (message : String)
  | emptyTableName
  | emptyColumnName (index : Nat) (table : String)
  | duplicateColumn (column table : String)
  | severalPrimaryKeys (table : String) (first second : Nat)
  | duplicateMember (member table : String)
  | noPrimaryKey (table : String)
  deriving DecidableEq

/-- Why a constant expression has no value. -/
inductive EvaluationFault where
  | custom (message : String)
  | notConstant (node : String)
  | conversion (kind : Option ColumnType) (ty : ColumnType)
  | testNotBool (kind : Option ColumnType)
  | unary (op : UnaryOp) (kind : Option ColumnType)
  | binary (op : BinaryOp) (left right : Option ColumnType)
  | overflow
  | divisionByZero
  | receiver (func : Func) (kind : Option ColumnType)
  deriving DecidableEq

/-- A member or column that was looked for. -/
inductive MemberRef where
  | named (name : String)
  | index (column : Nat)
  | ofOtherQuery (column : Nat)
  | outOfScope (column : Nat)
  deriving DecidableEq

/-- What went wrong. -/
inductive Cause where
  | unsupportedOperation (name : String) (supported : List String)
  | unsupportedExpression (fault : ExpressionFault)
  | unresolvableMember (member : MemberRef) (table : String)
  | invalidArgument (fault : ArgumentFault)
  | invalidSchema (fault : SchemaFault)
  | evaluationFailed (fault : EvaluationFault)
  | guid (fault : Guid.Fault)
  | adhoc (message : String)
  | foreign (message : String)
  | formatting
  deriving DecidableEq

/-- A cause and the earlier causes that led to it, the latest first. -/
structure Error where
  cause : Cause
  earlier : List Cause := []
  deriving DecidableEq

/-- The wording of a column role. -/
def ColumnRole.name : ColumnRole → String
  | .ordering => "ordering"
  | .projection => "projection"

/-- The wording of an expected number of arguments. -/
def Expected.text : Expected → String
  | .none => "no arguments"
  | .one => "1 argument"
  | .atMostOne => "at most 1 argument"

open ColumnType (kindName) in
/-- The wording of an expression fault. -/
def ExpressionFault.message : ExpressionFault → String
  | .custom message => message
  | .constant node => s!"constant {node}"
  | .countNotConstant method node => s!"`{method}` requires a constant count, got {node}"
  | .notColumn role node => s!"unsupported {role.name} expression: {node}"
  | .literalPredicate kind => s!"{kindName kind} literal used as a predicate"
  | .typedPredicate node ty => s!"{node} of type {ty.name} used as a predicate"
  | .comparisonWithNull op => s!"operator `{op.name}` against null"
  | .conversion ty dialect => s!"conversion to {ty.name} on dialect {dialect.name}"
  | .membershipColumns count =>
    s!"subquery membership requires exactly one selected column, got {count}"
  | .membershipTerminal terminal => s!"subquery membership over terminal `{terminal.name}`"
  | .pagedExists => "paged subquery inside EXISTS"
  | .existsTerminal terminal => s!"EXISTS over terminal `{terminal.name}`"
  | .correlatedExists table => s!"correlated EXISTS over the enclosing table `{table}`"
  | .correlatedSubquery table => s!"correlated subquery over the enclosing table `{table}`"
  | .lastOverPage terminal => s!"`{terminal.name}` over a paged query"
  | .patternKind func kind => s!"method `{func.name}` with a {kindName kind} argument"

open ColumnType (kindName) in
/-- The wording of an argument fault. -/
def ArgumentFault.message : ArgumentFault → String
  | .custom message => message
  | .afterTerminal method terminal =>
    s!"`{method}` cannot follow terminal operation `{terminal.name}`"
  | .noSelection => "`Select` expects at least one column"
  | .operationArity method expected got => s!"`{method}` expects {expected.text}, got {got}"
  | .notBoolean method ty => s!"`{method}` expects a boolean predicate, got {ty.name}"
  | .negativeCount method count => s!"`{method}` count must not be negative, got {count}"
  | .countKind method kind => s!"`{method}` expects an integer count, got {kindName kind}"
  | .callArity func got =>
    let (least, greatest) := func.arity
    s!"`{func.name}` expects {least}..={greatest} arguments, got {got}"
  | .nullPattern func => s!"`{func.name}` argument must not be null"
  | .substringRange start => s!"`Substring` start {start} is out of range"
  | .substringKind kind => s!"`Substring` start must be an integer, got {kindName kind}"
  | .unknownDialect name => s!"unknown dialect `{name}`"
  | .invalidUrl url fault => s!"invalid connection url `{url}`: {fault.message}"
  | .urlScheme scheme => s!"connection url scheme `{scheme}` does not name a supported dialect"
  | .connectionType name => s!"connection type `{name}` does not name a supported dialect"
  | .noDialect => "no dialect configured; set one with `dialect`, `url` or `connection`"
  | .dialectConflict other otherDialect first dialect =>
    s!"{other} selects dialect {otherDialect.name}, but {first} selects {dialect.name}"

/-- The wording of a schema fault. -/
def SchemaFault.message : SchemaFault → String
  | .custom message => message
  | .emptyTableName => "table name must not be empty"
  | .emptyColumnName index table => s!"column #{index} of table `{table}` has an empty name"
  | .duplicateColumn column table => s!"duplicate column `{column}` in table `{table}`"
  | .severalPrimaryKeys table first second =>
    s!"table `{table}` declares more than one primary key column (#{first} and #{second})"
  | .duplicateMember member table => s!"duplicate member `{member}` in table `{table}`"
  | .noPrimaryKey table => s!"table `{table}` has no primary key to order by"

open ColumnType (kindName) in
/-- The wording of an evaluation fault. -/
def EvaluationFault.message : EvaluationFault → String
  | .custom message => message
  | .notConstant node => s!"{node} is not a constant"
  | .conversion kind ty => s!"cannot convert {kindName kind} to {ty.name}"
  | .testNotBool kind => s!"conditional test must be a bool, got {kindName kind}"
  | .unary op kind => s!"operator `{op.name}` does not apply to {kindName kind}"
  | .binary op left right =>
    s!"operator `{op.name}` does not apply to {kindName left} and {kindName right}"
  | .overflow => "integer overflow"
  | .divisionByZero => "division by zero"
  | .receiver func kind => s!"method `{func.name}` does not apply to {kindName kind}"

/-- A member or column as messages show it. -/
def MemberRef.text : MemberRef → String
  | .named name => name
  | .index column => s!"#{column}"
  | .ofOtherQuery column => s!"#{column} of another query"
  | .outOfScope column => s!"#{column} of a row not in scope"

/-- The wording of a cause. -/
def Cause.message : Cause → String
  | .unsupportedOperation name supported =>
    let names := ", ".intercalate supported
    s!"unsupported operation `{name}`; supported operations: {names}"
  | .unsupportedExpression fault => s!"unsupported expression: {fault.message}"
  | .unresolvableMember member table =>
    s!"member `{member.text}` has no mapped column in table `{table}`"
  | .invalidArgument fault => s!"invalid argument: {fault.message}"
  | .invalidSchema fault => s!"invalid schema: {fault.message}"
  | .evaluationFailed fault => s!"expression evaluation failed: {fault.message}"
  | .guid fault => fault.message
  | .adhoc message => message
  | .foreign message => message
  | .formatting => "an error occurred when formatting an argument"

/-- The text of the error outside the library that a cause stands for, if it does. -/
def Cause.foreignText? : Cause → Option String
  | .guid fault => some fault.message
  | .foreign message => some message
  | .formatting => some Cause.formatting.message
  | _ => none

namespace Error

/-- The error that an expression has no SQL form where it stands. -/
def unsupportedExpression (fault : ExpressionFault) : Error :=
  { cause := .unsupportedExpression fault }

/-- The error that a member or column is not found. -/
def unresolvableMember (member : MemberRef) (table : String) : Error :=
  { cause := .unresolvableMember member table }

/-- The error that an argument is of no use. -/
def invalidArgument (fault : ArgumentFault) : Error := { cause := .invalidArgument fault }

/-- The error that a table description is not consistent. -/
def invalidSchema (fault : SchemaFault) : Error := { cause := .invalidSchema fault }

/-- The error that a constant has no value. -/
def evaluationFailed (fault : EvaluationFault) : Error := { cause := .evaluationFailed fault }

/-- The error with a new cause in front of its own. -/
def context (e : Error) (cause : Cause) : Error := ⟨cause, e.cause :: e.earlier⟩

/-- All causes, the latest first. -/
def causes (e : Error) : List Cause := e.cause :: e.earlier

/-- The message of an error: the wordings of all its causes, the latest first. -/
def message (e : Error) : String := ": ".intercalate (e.causes.map Cause.message)

/-- The text of the error outside the library that the latest cause stands for, if it does. -/
def foreignText? (e : Error) : Option String := e.cause.foreignText?

end Error

end TableQuery
