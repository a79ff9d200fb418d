import TableQuery.Query.Build
import TableQuery.Sql.Statement

/-!
# Recorded queries

The surface on which queries are written: terms, and drafts of queries that record one step after
another.  Writing a term or a step never fails.  A term may hold a draft whose table is not
consistent or whose steps cannot be applied; that comes to light when the term is turned into an
expression, and then the first such draft in the order of writing is reported.
-/

namespace TableQuery

mutual

/-- An expression as it is written. -/
inductive Term where
  /-- A column of the row of a query. -/
  | path (ref : ColumnRef)
  /-- A literal value. -/
  | literal (v : Value)
  /-- An operator with one operand. -/
  | unary (op : UnaryOp) (x : Term)
  /-- An operator with two operands. -/
  | binary (op : BinaryOp) (x y : Term)
  /-- A call of a function, the receiver first. -/
  | call (func : Func) (args : List Term)
  /-- One of two terms, by a test. -/
  | thenElse (test yes no : Term)
  /-- Membership in a list of values. -/
  | inList (x : Term) (values : List Value)
  /-- Membership of a column in a query. -/
  | inQuery (ref : ColumnRef) (draft : Draft)
  /-- Whether a query has a row. -/
  | exists (draft : Draft)
  /-- Whether a query has a row that satisfies a further condition. -/
  | existsWhere (draft : Draft) (condition : Term)

/-- A step of a query: an operation whose arguments are written as terms. -/
structure Step where
  /-- The name of the operation. -/
  method : String
  /-- The arguments. -/
  args : List Term

/-- A query as it is written: its table, the identity of its row, and its steps. -/
structure Draft where
  /-- The table, or why its description is not consistent. -/
  table : Except Error Table
  /-- The identity of the query's row. -/
  source : SourceId
  /-- The steps in the order of writing. -/
  steps : List Step

end

/-- The query that recorded operations build over a table. -/
def recordedQuery (table : Except Error Table) (source : SourceId)
    (operations : Except Error (List Operation)) : Except Error Query := do
  (Query.all (← table) source).build (← operations)

mutual

/-- The expression that a term stands for, or the error of the first draft in it that is no
query. -/
def Term.untyped : Term → Except Error Expr
  | .path ref => .ok (.column ref)
  | .literal v => .ok (.value v)
  | .unary op x => do return .unary op (← x.untyped)
  | .binary op x y => do
    let left ← x.untyped
    return .binary op left (← y.untyped)
  | .call func args => do return .call func (← untypedAll args)
  | .thenElse test yes no => do
    let c ← test.untyped
    let y ← yes.untyped
    return .conditional c y (← no.untyped)
  | .inList x values => do return .inList (← x.untyped) values
  | .inQuery ref draft => do return .inSubquery (.column ref) (← draft.query)
  | .exists draft => do return .exists (← draft.query) none
  | .existsWhere draft condition => do
    let q ← draft.query
    return .exists q (some (← condition.untyped))

/-- The expressions that several terms stand for. -/
def untypedAll : List Term → Except Error (List Expr)
  | [] => .ok []
  | x :: xs => do
    let e ← x.untyped
    return e :: (← untypedAll xs)

/-- The operation that a step records. -/
def Step.operation : Step → Except Error Operation
  | ⟨method, args⟩ => do return ⟨method, ← untypedAll args⟩

/-- The operations that several steps record, up to the first whose arguments cannot be built. -/
def recordedOperations : List Step → Except Error (List Operation)
  | [] => .ok []
  | s :: ss => do
    let o ← s.operation
    return o :: (← recordedOperations ss)

/-- The query that a draft stands for.  An inconsistent table is reported first, then a step that
could not be recorded, then one that cannot be applied. -/
def Draft.query : Draft → Except Error Query
  | ⟨table, source, steps⟩ => recordedQuery table source (recordedOperations steps)

end

/-- What is recorded with one step more; an error recorded before stays. -/
def record (recorded : Except Error (List Operation)) (s : Step) :
    Except Error (List Operation) := do
  let ops ← recorded
  return ops ++ [← s.operation]

namespace Draft

/-- The query for every row of a table. -/
def all (table : Except Error Table) (source : SourceId) : Draft := ⟨table, source, []⟩

/-- The draft with a step of a method as its next one. -/
def push (q : Draft) (method : Method) (args : List Term) : Draft :=
  { q with steps := q.steps ++ [⟨method.name, args⟩] }

/-- The draft with a raw operation as its next step. -/
def apply (q : Draft) (method : String) (args : List Term) : Draft :=
  { q with steps := q.steps ++ [⟨method, args⟩] }

/-- The recorded operations in the order of writing. -/
def operations (q : Draft) : Except Error (List Operation) := recordedOperations q.steps

/-- The statement of a draft. -/
def compile (d : Dialect) (q : Draft) : Except Error Sql.Statement := do
  Query.compile d (← q.query)

/-- The statement of a term over the row of a draft. -/
def compileTerm (d : Dialect) (q : Draft) (x : Term) : Except Error Sql.Statement := do
  let query ← q.query
  Expr.compile d query (← x.untyped)

end Draft

end TableQuery
