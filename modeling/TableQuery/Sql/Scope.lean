import TableQuery.Expr.Basic
import TableQuery.Sql.Syntax

/-!
# Scopes

The rows that an expression can read where it stands: that of the query around it, and those of the
queries around that one.  A column reference means the innermost row with its identity.  Its name is
qualified by the table inside a subquery that reads rows of the queries around it.
-/

namespace TableQuery.Sql

/-- A row in reach: its identity and the table it comes from. -/
structure Scope where
  source : SourceId
  table : Table

/-- The scope that a query opens. -/
def Scope.of (q : Query) : Scope := ⟨q.source, q.table⟩

/-- Where an expression stands: the dialect, whether column names are qualified, the row of the
query around it, and the rows of the queries around that one, innermost first. -/
structure Context where
  dialect : Dialect
  qualify : Bool
  row : Scope
  outer : List Scope

namespace Context

/-- The place directly inside a query that stands on its own. -/
def top (d : Dialect) (q : Query) : Context := ⟨d, false, Scope.of q, []⟩

/-- All rows in reach, innermost first. -/
def scopes (ctx : Context) : List Scope := ctx.row :: ctx.outer

/-- The place inside a query that stands in this place. -/
def enter (ctx : Context) (q : Query) (qualify : Bool) : Context :=
  ⟨ctx.dialect, qualify, Scope.of q, ctx.scopes⟩

/-- The innermost row with a given identity. -/
def scope? (ctx : Context) (source : SourceId) : Option Scope :=
  ctx.scopes.find? (fun s => s.source == source)

/-- The storage class of a column in reach. -/
def columnType (ctx : Context) (ref : ColumnRef) : Option ColumnType := do
  let scope ← ctx.scope? ref.source
  return (← scope.table.column? ref.column).ty

/-- The storage class of the value of an expression in this place. -/
def inferType (ctx : Context) (e : Expr) : Option ColumnType := e.inferType ctx.columnType

/-- The name of a column in reach. -/
def columnName (ctx : Context) (ref : ColumnRef) : Except Error ColumnName := do
  match ctx.scope? ref.source with
  | none => throw (.unresolvableMember (.outOfScope ref.column) ctx.row.table.name)
  | some scope =>
    let column ← scope.table.resolve ref.column
    return ⟨if ctx.qualify then some scope.table.name else none, column.name, ref.source⟩

/-- Whether the filter of a query reads a row in reach. -/
def isCorrelated (ctx : Context) (q : Query) : Bool :=
  match q.predicate with
  | none => false
  | some p => ctx.scopes.any (fun s => p.references s.source)

/-- Whether a row in reach comes from a table with the name of the query's own. -/
def readsTableOf (ctx : Context) (q : Query) : Bool :=
  ctx.scopes.any (fun s => s.table.name == q.table.name)

end Context

end TableQuery.Sql
