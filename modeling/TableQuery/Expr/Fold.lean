import TableQuery.Expr.Basic
import TableQuery.Text.Blank
import TableQuery.Text.Case
import TableQuery.Value.Cast

/-!
# Constant folding

The value of an expression that reads no row.  Integer arithmetic is exact or fails: the result is
computed over the integers and has to fit 64 bits.  As soon as a float takes part, arithmetic is
that of floats.  Null equals null and nothing else, an order with null is false, and arithmetic with
null is null.  The right operand is evaluated only where the left one does not decide.
-/

namespace TableQuery

namespace Fold

open ColumnType (kindName)

/-- The error that a constant has no value. -/
def fail (fault : EvaluationFault) : Error := .evaluationFailed fault

/-- The integer result of an operation; out of range it is an overflow. -/
def exact (n : Int) : Except Error Value :=
  match Number.int64? n with
  | some n => .ok (.int n)
  | none => .error (fail .overflow)

/-- A unary operator on a value. -/
def unary (op : UnaryOp) (v : Value) : Except Error Value :=
  match op, v with
  | _, .null => .ok .null
  | .not, .bool b => .ok (.bool !b)
  | .negate, .int n => exact (-n.toInt)
  | .negate, .float x => .ok (.float (-x))
  | .bitwiseNot, .int n => .ok (.int (~~~n))
  | op, v => .error (fail (.unary op v.type?))

/-- The error that a binary operator does not apply to two values. -/
def mismatch (op : BinaryOp) (l r : Value) : Error := fail (.binary op l.type? r.type?)

/-- Whether an order satisfies a comparison. -/
def satisfies : BinaryOp → Ordering → Bool
  | .equal, o => o == .eq
  | .notEqual, o => o != .eq
  | .lessThan, o => o == .lt
  | .lessThanOrEqual, o => o != .gt
  | .greaterThan, o => o == .gt
  | .greaterThanOrEqual, o => o != .lt
  | _, _ => false

/-- A comparison of two values. -/
def comparison (op : BinaryOp) (l r : Value) : Except Error Value :=
  match l.compare? r with
  | some o => .ok (.bool (satisfies op o))
  | none =>
    if op = .equal then .ok (.bool (l.isNull && r.isNull))
    else if op = .notEqual then .ok (.bool !(l.isNull && r.isNull))
    else if l.isNull || r.isNull then .ok (.bool false)
    else .error (mismatch op l r)

/-- The text of a value in a concatenation, where null is the empty text. -/
def concatText (v : Value) : Except Error String := do
  match ← v.cast .text with
  | .text s => return s
  | _ => return ""

/-- The concatenation of two values. -/
def concat (l r : Value) : Except Error Value := do
  return .text ((← concatText l) ++ (← concatText r))

/-- Arithmetic on two integers; division and remainder round toward zero.  The remainder of the
least integer by minus one counts as an overflow, as its quotient does. -/
def intArithmetic (op : BinaryOp) (a b : Int64) : Except Error Value :=
  let (x, y) := (a.toInt, b.toInt)
  match op with
  | .add => exact (x + y)
  | .subtract => exact (x - y)
  | .multiply => exact (x * y)
  | .divide => if y = 0 then .error (fail .divisionByZero) else exact (x.tdiv y)
  | .modulo =>
    if y = 0 then .error (fail .divisionByZero)
    else do
      let _ ← exact (x.tdiv y)
      exact (x.tmod y)
  | op => .error (mismatch op (.int a) (.int b))

/-- Arithmetic on two floats. -/
def floatArithmetic (op : BinaryOp) (x y : Float) : Float :=
  match op with
  | .add => x + y
  | .subtract => x - y
  | .multiply => x * y
  | .divide => x / y
  | _ => Number.floatRem x y

/-- Arithmetic on two values. -/
def arithmetic (op : BinaryOp) (l r : Value) : Except Error Value :=
  match l, r with
  | .null, _ | _, .null => .ok .null
  | .int a, .int b => intArithmetic op a b
  | l, r =>
    match l.float?, r.float? with
    | some x, some y => .ok (.float (floatArithmetic op x y))
    | _, _ => .error (mismatch op l r)

/-- A bitwise operator on two values. -/
def bitwise (op : BinaryOp) (l r : Value) : Except Error Value :=
  match l, r with
  | .null, _ | _, .null => .ok .null
  | .int a, .int b =>
    .ok <| .int <| match op with
      | .bitwiseAnd => a &&& b
      | .bitwiseOr => a ||| b
      | _ => a ^^^ b
  | .bool a, .bool b =>
    .ok <| .bool <| match op with
      | .bitwiseAnd => a && b
      | .bitwiseOr => a || b
      | _ => a != b
  | l, r => .error (mismatch op l r)

/-- A logical operator on two values. -/
def logical (op : BinaryOp) (l r : Value) : Except Error Value :=
  match l, r with
  | .bool a, .bool b => .ok (.bool (if op = .and then a && b else a || b))
  | l, r => .error (mismatch op l r)

/-- Whether a value is a text. -/
def isText (v : Value) : Bool := v.type? == some .text

/-- A binary operator on two values. -/
def binary (op : BinaryOp) (l r : Value) : Except Error Value :=
  if op = .coalesce then .ok (if l.isNull then r else l)
  else if op.isLogical then logical op l r
  else if op.isComparison then comparison op l r
  else if op = .add ∧ (isText l ∨ isText r) then concat l r
  else if op.isArithmetic then arithmetic op l r
  else bitwise op l r

/-- The result that the left operand decides on its own, if it does. -/
def decided? (op : BinaryOp) (l : Value) : Option Value :=
  match op, l with
  | .and, .bool false => some (.bool false)
  | .or, .bool true => some (.bool true)
  | .coalesce, l => if l.isNull then none else some l
  | _, _ => none

/-- Whether a value is among the members of a list.  Here null is a member if the list holds
null. -/
def isMember (v : Value) (members : List Value) : Bool :=
  members.any fun m => (v.isNull && m.isNull) || v.compare? m == some .eq

/-- The result of a function of text. -/
def textFunc (func : Func) (s : String) : Value :=
  match func with
  | .toLower => .text (Text.toLower s)
  | .toUpper => .text (Text.toUpper s)
  | .trim => .text (Text.trim s)
  | .trimStart => .text (Text.trimStart s)
  | .trimEnd => .text (Text.trimEnd s)
  | _ => .int (Int64.ofInt s.length)

/-- A call of a foldable function.  Arguments that are missing count as null, and ones too many do
not count. -/
def call (func : Func) (args : List Value) : Except Error Value :=
  let receiver := args.headD .null
  if func = .concat then concat receiver (args.tail.headD .null)
  else
    match receiver with
    | .null => .ok .null
    | .text s => .ok (textFunc func s)
    | v => .error (fail (.receiver func v.type?))

end Fold

mutual

/-- The value of an expression that reads no row. -/
def Expr.fold : Expr → Except Error Value
  | .value v => .ok v
  | .cast e ty _ => do (← e.fold).cast ty
  | .unary op e => do Fold.unary op (← e.fold)
  | .binary op l r => do
    let left ← l.fold
    match Fold.decided? op left with
    | some v => return v
    | none => Fold.binary op left (← r.fold)
  | .conditional test yes no => do
    match ← test.fold with
    | .bool true => yes.fold
    | .bool false => no.fold
    | v => throw (Fold.fail (.testNotBool v.type?))
  | .inList e members => do return .bool (Fold.isMember (← e.fold) members)
  | .call func args =>
    if func.isFoldable then do Fold.call func (← foldAll args)
    else .error (Fold.fail (.notConstant (Expr.call func args).describe))
  | e@(.column _) | e@(.inSubquery ..) | e@(.exists ..) =>
    .error (Fold.fail (.notConstant e.describe))

/-- The values of several expressions, in order. -/
def foldAll : List Expr → Except Error (List Value)
  | [] => .ok []
  | e :: es => do return (← e.fold) :: (← foldAll es)

end

end TableQuery
