import TableQuery.Sql.Render
import TableQuery.Sql.Forms

/-!
# Compilation

A query or an expression is compiled to a text and the values of its parameters, in the order of the
parameters.  Several statements may share one list of parameters: then each continues the numbering
of those before it, and what it has bound stays in the list even if it fails.
-/

namespace TableQuery

namespace Sql

/-- What can be written out. -/
inductive Fragment where
  | select (s : Select)
  | scalar (x : Scalar)
  | condition (c : Cond)

/-- The pieces of a fragment. -/
def Fragment.pieces (d : Dialect) : Fragment → List Piece
  | .select s => s.pieces d
  | .scalar x => x.pieces d
  | .condition c => c.pieces d

/-- The statement of a query. -/
def ofQuery (d : Dialect) (q : Query) : Emit Fragment :=
  let ctx := Context.top d q
  do return .select (← Select.of ctx q (queryFilter q ctx))

/-- An expression over the row of a query: a test as a condition, anything else as a value. -/
def ofExpr (d : Dialect) (q : Query) (e : Expr) : Emit Fragment :=
  let forms := formsOf e (Context.top d q)
  if e.isPredicate then do return .condition (← forms.condition)
  else do return .scalar (← forms.scalar)

/-- A statement with the values of its parameters. -/
structure Statement where
  text : String
  parameters : List Value

/-- A statement whose parameters are numbered from one. -/
def Statement.of (d : Dialect) (e : Emit Fragment) : Except Error Statement :=
  e.result.map fun f => ⟨piecesText d 1 (f.pieces d), e.bound⟩

/-- The parameters with the marks that stand for them in the text. -/
def Statement.named (d : Dialect) (s : Statement) : List (String × Value) :=
  s.parameters.mapIdx fun i v => (d.placeholder (i + 1), v)

/-- A list of parameters that several statements share; the next one has number
`start + values.length`. -/
structure Parameters where
  start : Nat
  values : List Value

/-- Adds what a step has bound, and writes its text with the numbers that follow. -/
def Parameters.add (p : Parameters) (d : Dialect) (e : Emit Fragment) :
    Except Error String × Parameters :=
  (e.result.map fun f => piecesText d (p.start + p.values.length) (f.pieces d),
    { p with values := p.values ++ e.bound })

end Sql

/-- The `SELECT` statement of a query. -/
def Query.compile (d : Dialect) (q : Query) : Except Error Sql.Statement :=
  Sql.Statement.of d (Sql.ofQuery d q)

/-- The statement of an expression over the row of a query. -/
def Expr.compile (d : Dialect) (q : Query) (e : Expr) : Except Error Sql.Statement :=
  Sql.Statement.of d (Sql.ofExpr d q e)

end TableQuery
