/-!
# Operators

The unary and binary operators of query expressions, with their names, their symbols and the
families they fall into.
-/

namespace TableQuery

/-- An operator with one operand. -/
inductive UnaryOp where
  | not
  | negate
  | bitwiseNot
  deriving DecidableEq, Repr

/-- An operator with two operands. -/
inductive BinaryOp where
  | and
  | or
  | equal
  | notEqual
  | lessThan
  | lessThanOrEqual
  | greaterThan
  | greaterThanOrEqual
  | add
  | subtract
  | multiply
  | divide
  | modulo
  | bitwiseAnd
  | bitwiseOr
  | exclusiveOr
  | coalesce
  deriving DecidableEq, Repr

namespace UnaryOp

/-- All unary operators. -/
def all : List UnaryOp := [not, negate, bitwiseNot]

/-- The name of an operator. -/
def name : UnaryOp → String
  | not => "Not"
  | negate => "Negate"
  | bitwiseNot => "BitwiseNot"

/-- The symbol of an operator. -/
def symbol : UnaryOp → String
  | not => "not"
  | negate => "-"
  | bitwiseNot => "~"

/-- The operator with a given name. -/
def ofName? (s : String) : Option UnaryOp := all.find? (fun op => op.name == s)

end UnaryOp

namespace BinaryOp

/-- All binary operators. -/
def all : List BinaryOp :=
  [and, or, equal, notEqual, lessThan, lessThanOrEqual, greaterThan, greaterThanOrEqual, add,
    subtract, multiply, divide, modulo, bitwiseAnd, bitwiseOr, exclusiveOr, coalesce]

/-- The name of an operator. -/
def name : BinaryOp → String
  | and => "And"
  | or => "Or"
  | equal => "Equal"
  | notEqual => "NotEqual"
  | lessThan => "LessThan"
  | lessThanOrEqual => "LessThanOrEqual"
  | greaterThan => "GreaterThan"
  | greaterThanOrEqual => "GreaterThanOrEqual"
  | add => "Add"
  | subtract => "Subtract"
  | multiply => "Multiply"
  | divide => "Divide"
  | modulo => "Modulo"
  | bitwiseAnd => "BitwiseAnd"
  | bitwiseOr => "BitwiseOr"
  | exclusiveOr => "ExclusiveOr"
  | coalesce => "Coalesce"

/-- The symbol of an operator. -/
def symbol : BinaryOp → String
  | and => "and"
  | or => "or"
  | equal => "="
  | notEqual => "!="
  | lessThan => "<"
  | lessThanOrEqual => "<="
  | greaterThan => ">"
  | greaterThanOrEqual => ">="
  | add => "+"
  | subtract => "-"
  | multiply => "*"
  | divide => "/"
  | modulo => "%"
  | bitwiseAnd => "&"
  | bitwiseOr => "|"
  | exclusiveOr => "^"
  | coalesce => "??"

/-- The operator with a given name. -/
def ofName? (s : String) : Option BinaryOp := all.find? (fun op => op.name == s)

/-- Whether the operator joins truth values. -/
def isLogical : BinaryOp → Bool
  | and | or => true
  | _ => false

/-- Whether the operator is a test for equality or order. -/
def isComparison : BinaryOp → Bool
  | equal | notEqual | lessThan | lessThanOrEqual | greaterThan | greaterThanOrEqual => true
  | _ => false

/-- Whether the operator is one of arithmetic. -/
def isArithmetic : BinaryOp → Bool
  | add | subtract | multiply | divide | modulo => true
  | _ => false

/-- Whether the operator works bit by bit. -/
def isBitwise : BinaryOp → Bool
  | bitwiseAnd | bitwiseOr | exclusiveOr => true
  | _ => false

/-- Whether the operator yields a truth value. -/
def isPredicate (op : BinaryOp) : Bool := op.isLogical || op.isComparison

/-- The comparison that holds when the operands trade places. -/
def commute : BinaryOp → BinaryOp
  | lessThan => greaterThan
  | lessThanOrEqual => greaterThanOrEqual
  | greaterThan => lessThan
  | greaterThanOrEqual => lessThanOrEqual
  | op => op

end BinaryOp

end TableQuery
