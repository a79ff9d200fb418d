import TableQuery.Sql.Emit
import TableQuery.Sql.Scope

/-!
# Statements of queries

The `SELECT` statement of a query, given the condition that its filter becomes.  Pages are always
ordered, by the primary key if nothing else is asked for; the last row is the first in reverse
order; and where a page or the distinct rows are to be counted, the statement counts the rows of
another.
-/

namespace TableQuery

/-- The sort keys of the statement of a query. -/
def Query.sortKeys (q : Query) : Except Error (List SortKey) :=
  if q.terminal.isCount || (q.terminal == .any && q.skip.isNone) then .ok []
  else if q.terminal.isLast && q.isPaged then
    .error (.unsupportedExpression (.lastOverPage q.terminal))
  else
    let directed (keys : List SortKey) :=
      if q.terminal.isLast then keys.map SortKey.reverse else keys
    if q.orderings.isEmpty && (q.skip.isSome || q.terminal.isLast) then
      match q.table.primaryKeyIndex? with
      | some column => .ok (directed [⟨column, true⟩])
      | none => .error (.invalidSchema (.noPrimaryKey q.table.name))
    else .ok (directed q.orderings)

namespace Sql

/-- The row limit that is as good as none where a dialect demands one before an offset. -/
def unlimited : Dialect → Int
  | .postgreSql => 9223372036854775807
  | _ => -1

/-- The row limit written at the end of a statement.  SQL Server has one there only after an
offset. -/
def Limit.of (d : Dialect) (take skip : Option Nat) : Limit :=
  match d, take, skip with
  | .sqlServer, _, .none => .none
  | .sqlServer, take, some n => .offsetFetch n take
  | _, .none, .none => .none
  | _, some m, skip => .limitOffset m skip
  | d, .none, some n => .limitOffset (unlimited d) (some n)

/-- The row limit written before the output.  Only SQL Server has one there, and only without an
offset. -/
def topOf (d : Dialect) (take skip : Option Nat) : Option Nat :=
  if d.isSqlServer && skip.isNone then take else none

/-- Whether the rows are counted in SQL Server's type of long integers. -/
def countsBig (d : Dialect) (t : Terminal) : Bool := d.isSqlServer && t == .longCount

/-- What the statement of a query returns. -/
def Output.of (ctx : Context) (q : Query) : Except Error Output :=
  if q.terminal.isCount then .ok (.count (countsBig ctx.dialect q.terminal))
  else if q.terminal = .any then .ok .one
  else if q.projection.isEmpty then .ok .all
  else return .columns (← q.projection.mapM fun i => ctx.columnName ⟨q.source, i⟩)

/-- The sort key of a statement. -/
def OrderTerm.of (ctx : Context) (q : Query) (k : SortKey) : Except Error OrderTerm := do
  return ⟨← ctx.columnName ⟨q.source, k.column⟩, k.ascending⟩

/-- The conditions that are present, one after another. -/
def presentConditions : List (Option (Emit Cond)) → Emit (List Cond)
  | [] => .done []
  | none :: rest => presentConditions rest
  | some c :: rest => do
    let x ← c
    return x :: (← presentConditions rest)

/-- The statement of a query that is not counted by way of another. -/
def Select.direct (ctx : Context) (q : Query) (filter : Option (Emit Cond)) : Emit Select := do
  let keys ← Emit.lift q.sortKeys
  let output ← Emit.lift (Output.of ctx q)
  let filters ← presentConditions [filter]
  let order ← Emit.lift (keys.mapM (OrderTerm.of ctx q))
  return {
    distinct := q.distinct && !q.terminal.isCount
    top := topOf ctx.dialect q.effectiveTake q.skip
    output
    source := .table q.table.name q.source
    filters
    order
    limit := Limit.of ctx.dialect q.effectiveTake q.skip }

/-- The statement that counts the rows of another. -/
def Select.counting (big : Bool) (rows : Select) : Select where
  distinct := false
  top := none
  output := .count big
  source := .derived rows "t"
  filters := []
  order := []
  limit := .none

/-- The statement of a query. -/
def Select.of (ctx : Context) (q : Query) (filter : Option (Emit Cond)) : Emit Select :=
  if q.terminal.isCount && (q.isPaged || q.distinct) then do
    let rows ← Select.direct ctx { q with terminal := .sequence } filter
    return Select.counting (countsBig ctx.dialect q.terminal) rows
  else Select.direct ctx q filter

end Sql

end TableQuery
