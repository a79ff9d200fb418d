import TableQuery.Sql.Call
import TableQuery.Sql.Select

/-!
# Forms of expressions

Every expression has two forms: a condition, as in a `WHERE` clause, and a value, as in an argument.
A test is a condition first and becomes a value by a choice between true and false; anything else is
a value first and becomes a condition by a comparison with true.  Constants are folded whole, into
one bound value or one fixed condition.
-/

namespace TableQuery.Sql

/-- The two forms of an expression. -/
structure Forms where
  condition : Emit Cond
  scalar : Emit Scalar

namespace Forms

/-- The forms of a test, given its condition. -/
def ofCondition (condition : Emit Cond) : Forms where
  condition
  scalar := do return chosen (← condition) (.truth true) (.truth false)

/-- The forms of any other expression, given its value.  It can be a condition if it may be a truth
value. -/
def ofScalar (ctx : Context) (e : Expr) (scalar : Emit Scalar) : Forms where
  condition :=
    match (ctx.inferType e).filter (fun ty => !ty.isBool) with
    | some ty => .fail (.unsupportedExpression (.typedPredicate e.describe ty))
    | none => do return compared .equal (← scalar) (.truth true)
  scalar

/-- The forms of a constant. -/
def ofConstant (e : Expr) : Forms where
  condition := do
    match ← Emit.lift (constant e) with
    | .bool b => return truth b
    | v => Emit.fail (.unsupportedExpression (.literalPredicate v.type?))
  scalar := do literal (← Emit.lift (constant e))

/-- The forms of a constant if an expression is one, and the given forms otherwise. -/
def unlessConstant (e : Expr) (forms : Forms) : Forms :=
  if e.isConst then ofConstant e else forms

end Forms

/-- An expression without the implicit conversions around it that lose nothing. -/
def stripWidening (ctx : Context) : Expr → Expr
  | .cast e ty true =>
    let inner := stripWidening ctx e
    match ctx.inferType inner with
    | some source => if source.widensTo ty then inner else .cast e ty true
    | none => inner
  | e => e

/-- Whether a conversion is implicit and loses nothing, so that it is looked through. -/
def isWidening (ctx : Context) (e : Expr) (ty : ColumnType) (implicit : Bool) : Bool :=
  implicit &&
    match ctx.inferType (stripWidening ctx e) with
    | some source => source.widensTo ty
    | none => true

/-- A comparison of a value with a constant; null is not compared with but tested for. -/
def againstConstant (op : BinaryOp) (operand : Emit Scalar) (e : Expr) : Emit Cond := do
  let v ← Emit.lift (constant e)
  if v.isNull then
    match op with
    | .equal => return .paren (.isNull (← operand))
    | .notEqual => return .paren (.isNotNull (← operand))
    | op => Emit.fail (.unsupportedExpression (.comparisonWithNull op))
  else
    let x ← operand
    return compared op x (← literal v)

/-- A comparison.  A constant always comes to stand on the right. -/
def comparison (op : BinaryOp) (l r : Expr) (left right : Emit Scalar) : Emit Cond :=
  match l.isConst, r.isConst with
  | false, true => againstConstant op left r
  | true, false => againstConstant op.commute right l
  | _, _ => do
    let x ← left
    return compared op x (← right)

/-- The conjunction or disjunction of two conditions. -/
def logical (op : BinaryOp) (left right : Emit Cond) : Emit Cond := do
  let x ← left
  let y ← right
  return .paren (if op = .and then .and x y else .or x y)

/-- A computed value.  Texts are added by joining them, and SQLite has no exclusive or. -/
def arithmetic (ctx : Context) (op : BinaryOp) (l r : Expr) (left right : Emit Scalar) :
    Emit Scalar := do
  let x ← left
  let y ← right
  if op = .coalesce then return .call .coalesce [x, y]
  else if op = .add ∧ (ctx.inferType l = some .text ∨ ctx.inferType r = some .text) then
    return .paren (.concat x y)
  else if op = .exclusiveOr ∧ ctx.dialect = .sqlite then
    let x' ← left
    let y' ← right
    return grouped .subtract (grouped .bitwiseOr x y) (grouped .bitwiseAnd x' y')
  else return grouped op x y

/-- Several values bound one after another. -/
def literals : List Value → Emit (List Scalar)
  | [] => .done []
  | v :: vs => do
    let x ← literal v
    return x :: (← literals vs)

/-- Membership in a list of values.  Null is never equal to anything, so a null member becomes a
test for null. -/
def membership (operand : Emit Scalar) (members : List Value) : Emit Cond := do
  let present := Value.present members
  let hasNull := members.any Value.isNull
  match present.isEmpty, hasNull with
  | true, false => return truth false
  | true, true => return .paren (.isNull (← operand))
  | false, false =>
    let x ← operand
    return .paren (.inList x (← literals present))
  | false, true =>
    let x ← operand
    let among := Cond.inList x (← literals present)
    return .paren (.or among (.isNull (← operand)))

/-- The place inside a query that stands in an expression.  Names are qualified once a row around
the query is read. -/
def Context.inside (ctx : Context) (q : Query) : Context :=
  ctx.enter q (ctx.qualify || ctx.isCorrelated q)

/-- Membership in a query, which must have one column and no terminal. -/
def subqueryMembership (ctx : Context) (q : Query) (operand : Emit Scalar)
    (filter : Option (Emit Cond)) : Emit Cond := do
  if q.projection.length ≠ 1 then
    Emit.fail (.unsupportedExpression (.membershipColumns q.projection.length))
  else if !q.terminal.isSequence then
    Emit.fail (.unsupportedExpression (.membershipTerminal q.terminal))
  else
    let x ← operand
    if ctx.isCorrelated q && ctx.readsTableOf q then
      Emit.fail (.unsupportedExpression (.correlatedSubquery q.table.name))
    else
      return .paren (.inSelect x (← Select.of (ctx.inside q) q filter))

/-- Whether a query has a row that satisfies its filter and a further condition.  Qualified names
cannot tell two uses of one table apart, so the table must differ from those around. -/
def existence (ctx : Context) (q : Query) (filter condition : Option (Emit Cond)) : Emit Cond := do
  if q.isPaged then Emit.fail (.unsupportedExpression .pagedExists)
  else if !(q.terminal == .sequence || q.terminal == .any) then
    Emit.fail (.unsupportedExpression (.existsTerminal q.terminal))
  else if ctx.readsTableOf q then
    Emit.fail (.unsupportedExpression (.correlatedExists q.table.name))
  else
    return .exists {
      distinct := false
      top := none
      output := .one
      source := .table q.table.name q.source
      filters := ← presentConditions [filter, condition]
      order := []
      limit := .none }

mutual

/-- The two forms of an expression. -/
def formsOf : Expr → Context → Forms
  | .value v, _ => Forms.ofConstant (.value v)
  | .column ref, ctx =>
    Forms.ofScalar ctx (.column ref) (do return .column (← Emit.lift (ctx.columnName ref)))
  | .unary op e, ctx =>
    let inner := formsOf e ctx
    Forms.unlessConstant (.unary op e) <|
      match op with
      | .not => Forms.ofCondition (do return .paren (.not (← inner.condition)))
      | .negate => Forms.ofScalar ctx (.unary op e) (do return .paren (.negate (← inner.scalar)))
      | .bitwiseNot =>
        Forms.ofScalar ctx (.unary op e) (do return .paren (.complement (← inner.scalar)))
  | .binary op l r, ctx =>
    let left := formsOf l ctx
    let right := formsOf r ctx
    Forms.unlessConstant (.binary op l r) <|
      if op.isLogical then Forms.ofCondition (logical op left.condition right.condition)
      else if op.isComparison then
        Forms.ofCondition (comparison op l r left.scalar right.scalar)
      else
        Forms.ofScalar ctx (.binary op l r) (arithmetic ctx op l r left.scalar right.scalar)
  | .cast e ty implicit, ctx =>
    let inner := formsOf e ctx
    let whole := Forms.unlessConstant (.cast e ty implicit) <|
      Forms.ofScalar ctx (.cast e ty implicit) <|
        if isWidening ctx e ty implicit then inner.scalar else castTo ctx.dialect ty inner.scalar
    if isWidening ctx e ty implicit then { whole with scalar := inner.scalar } else whole
  | .conditional test yes no, ctx =>
    let c := formsOf test ctx
    let y := formsOf yes ctx
    let n := formsOf no ctx
    Forms.unlessConstant (.conditional test yes no) <|
      Forms.ofScalar ctx (.conditional test yes no) <| do
        let test ← c.condition
        let yes ← y.scalar
        return chosen test yes (← n.scalar)
  | .call func args, ctx =>
    let arguments := argumentForms args ctx
    Forms.unlessConstant (.call func args) <|
      if func.isPredicate then Forms.ofCondition (Call.condition ctx.dialect func arguments)
      else Forms.ofScalar ctx (.call func args) (Call.scalar ctx.dialect func arguments)
  | .inList e members, ctx =>
    let inner := formsOf e ctx
    Forms.unlessConstant (.inList e members) <|
      Forms.ofCondition (membership inner.scalar members)
  | .inSubquery e q, ctx =>
    let operand := (formsOf e ctx).scalar
    Forms.ofCondition (subqueryMembership ctx q operand (queryFilter q (ctx.inside q)))
  | .exists q condition, ctx =>
    let inner := ctx.enter q true
    Forms.ofCondition (existence ctx q (queryFilter q inner) (optionCondition condition inner))

/-- The arguments of a call with their values. -/
def argumentForms : List Expr → Context → List Argument
  | [], _ => []
  | e :: es, ctx => ⟨e, (formsOf e ctx).scalar⟩ :: argumentForms es ctx

/-- The condition of an expression that may be absent. -/
def optionCondition : Option Expr → Context → Option (Emit Cond)
  | none, _ => none
  | some e, ctx => some (formsOf e ctx).condition

/-- The condition of the filter of a query, in the place inside the query. -/
def queryFilter : Query → Context → Option (Emit Cond)
  | { predicate, .. }, ctx => optionCondition predicate ctx

end

end TableQuery.Sql
