import TableQuery.Expr.Fold
import TableQuery.Query.Operation

/-!
# Building queries

Applying operations to a query.  Filters are joined by `and` in the order they come, sort keys are
appended, and of several limits or selections the last one counts.  Predicates must be truth values
as far as their type is known, sort keys and selections must be plain columns of the query's own
row, and limits must be constants.  After a terminal no operation is possible.
-/

namespace TableQuery

/-- The one argument of an operation. -/
def Operation.onlyArg (o : Operation) : Except Error Expr :=
  match o.args with
  | [e] => .ok e
  | args => .error (.invalidArgument (.operationArity o.method .one args.length))

/-- The number of rows that an argument stands for. -/
def countOf (method : String) (e : Expr) : Except Error Nat := do
  if !e.isConst then
    throw (.unsupportedExpression (.countNotConstant method e.describe))
  match ← e.fold with
  | .int n =>
    if 0 ≤ n.toInt then return n.toInt.toNat
    else throw (.invalidArgument (.negativeCount method n.toInt))
  | v => throw (.invalidArgument (.countKind method v.type?))

namespace Query

/-- The query with one more filter. -/
def withFilter (q : Query) (e : Expr) : Query :=
  { q with
    predicate := some (match q.predicate with
      | some p => .binary .and p e
      | none => e) }

/-- Fails at the first column of the query's own row that does not exist. -/
def checkColumns (q : Query) : List ColumnRef → Except Error Unit
  | [] => .ok ()
  | ref :: refs =>
    if ref.source = q.source then do
      let _ ← q.table.resolve ref.column
      q.checkColumns refs
    else q.checkColumns refs

/-- Checks the filter of an operation. -/
def checkFilter (q : Query) (method : String) (e : Expr) : Except Error Unit := do
  q.checkColumns e.columns
  match e.inferType q.columnType with
  | some ty => if ty.isBool then return () else
      throw (.invalidArgument (.notBoolean method ty))
  | none => return ()

/-- The index of a column of the query's own row. -/
def ownColumn (q : Query) (role : ColumnRole) : Expr → Except Error Nat
  | .column ref =>
    if ref.source = q.source then (q.table.resolve ref.column).map fun _ => ref.column
    else .error (.unresolvableMember (.ofOtherQuery ref.column) q.table.name)
  | e => .error (.unsupportedExpression (.notColumn role e.describe))

/-- The indexes of several columns of the query's own row. -/
def ownColumns (q : Query) (role : ColumnRole) : List Expr → Except Error (List Nat)
  | [] => .ok []
  | e :: es => do return (← q.ownColumn role e) :: (← q.ownColumns role es)

/-- The query after the operation of a known method. -/
def applyMethod (q : Query) (method : Method) (o : Operation) : Except Error Query := do
  match method with
  | .filter =>
    let e ← o.onlyArg
    q.checkFilter o.method e
    return q.withFilter e
  | .order ascending =>
    let column ← q.ownColumn .ordering (← o.onlyArg)
    return { q with orderings := q.orderings ++ [⟨column, ascending⟩] }
  | .skip =>
    let n ← countOf o.method (← o.onlyArg)
    return { q with skip := some n }
  | .take =>
    let n ← countOf o.method (← o.onlyArg)
    return { q with take := some n }
  | .select =>
    if o.args.isEmpty then throw (.invalidArgument .noSelection)
    let columns ← q.ownColumns .projection o.args
    return { q with projection := columns }
  | .distinct =>
    if !o.args.isEmpty then
      throw (.invalidArgument (.operationArity o.method .none o.args.length))
    return { q with distinct := true }
  | .close terminal =>
    match o.args with
    | [] => return { q with terminal }
    | [e] =>
      q.checkFilter o.method e
      return { q.withFilter e with terminal }
    | args => throw (.invalidArgument (.operationArity o.method .atMostOne args.length))

/-- The query after one operation. -/
def apply (q : Query) (o : Operation) : Except Error Query :=
  if !q.terminal.isSequence then
    .error (.invalidArgument (.afterTerminal o.method q.terminal))
  else
    match Method.ofName? o.method with
    | some method => q.applyMethod method o
    | none => .error { cause := .unsupportedOperation o.method (Method.table.map Prod.fst) }

/-- The query after several operations, up to the first that fails. -/
def build (q : Query) : List Operation → Except Error Query
  | [] => .ok q
  | o :: os => do (← q.apply o).build os

end Query

end TableQuery
