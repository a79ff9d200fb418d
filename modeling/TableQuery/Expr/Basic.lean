import TableQuery.Expr.Func
import TableQuery.Expr.Operator
import TableQuery.Query.Terminal
import TableQuery.Schema.Table
import TableQuery.Value

/-!
# Expressions and queries

Expressions over the rows of one or more queries, and the queries themselves.  The two types are
mutual: an expression may ask for membership in a query or for the existence of a row in one, and a
query is filtered by an expression.

A column reference names the row it reads through the `SourceId` of the query that the row belongs
to.  That is how a subquery tells its own columns from those of the queries around it, even where
the tables have the same column names.
-/

namespace TableQuery

/-- The identity of the row of a query. -/
structure SourceId where
  number : Nat
  deriving DecidableEq

/-- A column of the row of a query, by its index in the table. -/
structure ColumnRef where
  source : SourceId
  column : Nat
  deriving DecidableEq

/-- A sort key: a column by its index in the table, and the direction. -/
structure SortKey where
  column : Nat
  ascending : Bool
  deriving DecidableEq

/-- The sort key with the opposite direction. -/
def SortKey.reverse (k : SortKey) : SortKey := { k with ascending := !k.ascending }

mutual

/-- An expression over the rows of queries. -/
inductive Expr where
  /-- A literal value. -/
  | value (v : Value)
  /-- A column of the row of a query. -/
  | column (ref : ColumnRef)
  /-- An operator with one operand. -/
  | unary (op : UnaryOp) (operand : Expr)
  /-- An operator with two operands. -/
  | binary (op : BinaryOp) (left right : Expr)
  /-- A conversion to another storage class; an implicit one only lines up the types of operands. -/
  | cast (operand : Expr) (ty : ColumnType) (implicit : Bool)
  /-- One of two expressions, by a test. -/
  | conditional (test yes no : Expr)
  /-- A call of a function, the receiver first. -/
  | call (func : Func) (args : List Expr)
  /-- Membership in a list of values. -/
  | inList (operand : Expr) (members : List Value)
  /-- Membership in the one column of a query. -/
  | inSubquery (operand : Expr) (query : Query)
  /-- Whether a query has a row, also under a further condition that may read the rows around it. -/
  | exists (query : Query) (condition : Option Expr)

/-- A query over one table, as built from its operations. -/
structure Query where
  /-- The table the query reads. -/
  table : Table
  /-- The identity of the query's row. -/
  source : SourceId
  /-- The conjunction of the filters. -/
  predicate : Option Expr
  /-- The sort keys, the most significant first. -/
  orderings : List SortKey
  /-- The selected columns; none stands for all. -/
  projection : List Nat
  /-- The number of rows to leave out at the start. -/
  skip : Option Nat
  /-- The greatest number of rows to read. -/
  take : Option Nat
  /-- Whether equal rows count once. -/
  distinct : Bool
  /-- What becomes of the rows. -/
  terminal : Terminal

end

namespace Expr

/-- The null literal. -/
def null : Expr := value .null

/-- Whether an expression is a literal. -/
def isValue : Expr → Bool
  | value _ => true
  | _ => false

/-- Whether an expression is the null literal. -/
def isNullValue : Expr → Bool
  | value .null => true
  | _ => false

/-- Whether an expression is a column. -/
def isColumn : Expr → Bool
  | column _ => true
  | _ => false

/-- Whether an expression is a conversion. -/
def isCast : Expr → Bool
  | cast .. => true
  | _ => false

/-- Whether an expression is a call. -/
def isCall : Expr → Bool
  | call .. => true
  | _ => false

/-- Whether an expression is a test for equality. -/
def isEqual : Expr → Bool
  | binary .equal _ _ => true
  | _ => false

/-- Whether an expression is a negation. -/
def isNot : Expr → Bool
  | unary .not _ => true
  | _ => false

/-- Whether an expression is a test, as opposed to a value that happens to be a truth value. -/
def isPredicate : Expr → Bool
  | binary op _ _ => op.isPredicate
  | unary op _ => op == .not
  | call func _ => func.isPredicate
  | inList .. | inSubquery .. | .exists .. => true
  | _ => false

/-- A short description of an expression, for messages. -/
def describe : Expr → String
  | binary op _ _ => s!"operator `{op.name}`"
  | cast _ ty _ => s!"conversion to {ty.name}"
  | column _ => "column reference"
  | conditional .. => "conditional"
  | .exists .. => "EXISTS subquery"
  | call func _ => s!"method `{func.name}`"
  | inList .. => "list membership"
  | inSubquery .. => "subquery membership"
  | unary op _ => s!"operator `{op.name}`"
  | value v => s!"{v.kindName} literal"

mutual

/-- Whether an expression can be evaluated without a row: it holds no column, no subquery and no
call of a function that only a database can evaluate. -/
def isConst : Expr → Bool
  | value _ => true
  | column _ | .exists .. | inSubquery .. => false
  | binary _ l r => l.isConst && r.isConst
  | cast e _ _ => e.isConst
  | conditional t y n => t.isConst && y.isConst && n.isConst
  | call func args => func.isFoldable && areConst args
  | inList e _ => e.isConst
  | unary _ e => e.isConst

/-- Whether all of some expressions can be evaluated without a row. -/
def areConst : List Expr → Bool
  | [] => true
  | e :: es => e.isConst && areConst es

end

/-- The storage class of the value of an expression, as far as the classes of the columns tell. -/
def inferType (columnType : ColumnRef → Option ColumnType) : Expr → Option ColumnType
  | value v => v.type?
  | column ref => columnType ref
  | cast _ ty _ => some ty
  | unary .not _ => some .bool
  | unary _ e => e.inferType columnType
  | binary op l r =>
    if op.isPredicate then some .bool
    else
      let left := l.inferType columnType
      let right := r.inferType columnType
      if op = .coalesce then left <|> right
      else if op = .add ∧ (left = some .text ∨ right = some .text) then some .text
      else if left = some .float ∨ right = some .float then some .float
      else left <|> right
  | conditional _ y n => y.inferType columnType <|> n.inferType columnType
  | call func args =>
    func.resultType <| match args with
      | [] => none
      | receiver :: _ => receiver.inferType columnType
  | inList .. | inSubquery .. | .exists .. => some .bool

end Expr

/-- A leaf of an expression. -/
inductive Leaf where
  | column (ref : ColumnRef)
  | value (v : Value)

/-- The column a leaf reads. -/
def Leaf.column? : Leaf → Option ColumnRef
  | .column ref => some ref
  | .value _ => none

/-- The literal a leaf is. -/
def Leaf.value? : Leaf → Option Value
  | .column _ => none
  | .value v => some v

mutual

/-- The columns and literals of an expression from left to right.  A subquery is entered through its
filter; the members of a list are not visited. -/
def Expr.leaves : Expr → List Leaf
  | .value v => [.value v]
  | .column ref => [.column ref]
  | .unary _ e => e.leaves
  | .binary _ l r => l.leaves ++ r.leaves
  | .cast e _ _ => e.leaves
  | .conditional t y n => t.leaves ++ y.leaves ++ n.leaves
  | .call _ args => listLeaves args
  | .inList e _ => e.leaves
  | .inSubquery e q => e.leaves ++ q.leaves
  | .exists q condition => q.leaves ++ optionLeaves condition

/-- The leaves of several expressions. -/
def listLeaves : List Expr → List Leaf
  | [] => []
  | e :: es => e.leaves ++ listLeaves es

/-- The leaves of an expression that may be absent. -/
def optionLeaves : Option Expr → List Leaf
  | none => []
  | some e => e.leaves

/-- The leaves of the filter of a query. -/
def Query.leaves : Query → List Leaf
  | { predicate, .. } => optionLeaves predicate

end

namespace Expr

/-- The columns of an expression from left to right. -/
def columns (e : Expr) : List ColumnRef := e.leaves.filterMap Leaf.column?

/-- The literals of an expression from left to right. -/
def values (e : Expr) : List Value := e.leaves.filterMap Leaf.value?

/-- Whether an expression reads a column of a given row, also from inside a subquery. -/
def references (e : Expr) (source : SourceId) : Bool :=
  e.columns.any (fun ref => ref.source == source)

end Expr

namespace Query

/-- The query for every row of a table. -/
def all (table : Table) (source : SourceId) : Query where
  table
  source
  predicate := none
  orderings := []
  projection := []
  skip := none
  take := none
  distinct := false
  terminal := .sequence

/-- The storage class of a column of the query's own row. -/
def columnType (q : Query) (ref : ColumnRef) : Option ColumnType :=
  if ref.source = q.source then (q.table.column? ref.column).map Column.ty else none

/-- The row limit, with the one that the terminal brings. -/
def effectiveTake (q : Query) : Option Nat :=
  match q.take, q.terminal.implicitTake with
  | some m, some n => some (min m n)
  | some m, none => some m
  | none, limit => limit

/-- Whether the query reads a page of its rows. -/
def isPaged (q : Query) : Bool := q.skip.isSome || q.take.isSome

end Query

end TableQuery
