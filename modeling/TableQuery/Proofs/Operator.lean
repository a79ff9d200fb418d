import Mathlib.Tactic.Lemma
import TableQuery.Expr.Operator

/-!
# Operators with two operands

What the kind of an operator says about it, and about the operator for its operands in the other
order, which is of the same kind.
-/

namespace TableQuery.BinaryOp

/-- A comparison is no connective. -/
lemma not_isLogical_of_isComparison {op : BinaryOp} (h : op.isComparison = true) :
    ¬ op.isLogical = true := by
  cases op with
  | and | or => cases h
  | _ => exact Bool.false_ne_true

/-- A comparison gives a truth value. -/
lemma isPredicate_of_isComparison {op : BinaryOp} (h : op.isComparison = true) :
    op.isPredicate = true := by
  rw [isPredicate, h, Bool.or_true]

/-- To turn an operator twice is to leave it. -/
lemma commute_commute (op : BinaryOp) : op.commute.commute = op := by
  cases op <;> rfl

/-- A turned operator is a comparison just if the operator is. -/
lemma isComparison_commute (op : BinaryOp) : op.commute.isComparison = op.isComparison := by
  cases op <;> rfl

/-- A turned operator is a connective just if the operator is. -/
lemma isLogical_commute (op : BinaryOp) : op.commute.isLogical = op.isLogical := by
  cases op <;> rfl

/-- A turned operator gives a truth value just if the operator does. -/
lemma isPredicate_commute (op : BinaryOp) : op.commute.isPredicate = op.isPredicate := by
  rw [isPredicate, isLogical_commute, isComparison_commute, isPredicate]

end TableQuery.BinaryOp
