import TableQuery.Proofs.Meaning.Agreement
import TableQuery.Proofs.Quantity.Exactness

/-!
# Numbers as they are written

Implicit conversions of integers into floats are not written, so what is a float may be written as
an integer (`Expr.writesFloat`).  Only a quotient can tell the difference, since one of integers is
truncated: `Expr.KeepsQuotients` says of an expression that no division of floats is written as one
of integers.
-/

namespace TableQuery

/-- Whether the text of an expression takes part in arithmetic as a fraction.  Constants are folded
with the conversions inside them; elsewhere conversions are looked through. -/
def Expr.writesFloat (columnType : ColumnRef → Option ColumnType) : Expr → Bool
  | .cast e _ _ => e.writesFloat columnType
  | .unary op e =>
    if e.isConst then (Expr.unary op e).inferType columnType == some .float
    else e.writesFloat columnType
  | .binary op l r =>
    if l.isConst && r.isConst then (Expr.binary op l r).inferType columnType == some .float
    else if op = .coalesce then l.writesFloat columnType
    else !op.isComparison && (l.writesFloat columnType || r.writesFloat columnType)
  | e => e.inferType columnType == some .float

/-- Whether each division of floats that is written out has an operand that is written as a float.
Nothing is null, so the alternatives for null do not matter. -/
def Expr.KeepsQuotients (columnType : ColumnRef → Option ColumnType) : Expr → Prop
  | .cast e _ _ | .unary _ e => e.KeepsQuotients columnType
  | .binary op l r =>
    (l.isConst && r.isConst) = true ∨
      l.KeepsQuotients columnType ∧ (op ≠ .coalesce → r.KeepsQuotients columnType) ∧
        (op = .divide → (Expr.binary op l r).inferType columnType = some .float →
          l.writesFloat columnType = true ∨ r.writesFloat columnType = true)
  | _ => True

namespace Sql

variable {q : Query} {e l r : Expr} {ty : ColumnType} {op : BinaryOp}
  {columnType : ColumnRef → Option ColumnType}

/-- Arithmetic that is written out is written as a fraction if an operand is. -/
lemma writesFloat_elementary (hop : op.isElementary = true)
    (hconst : ¬ (l.isConst && r.isConst) = true) :
    (Expr.binary op l r).writesFloat columnType =
      (l.writesFloat columnType || r.writesFloat columnType) := by
  rw [Expr.writesFloat, if_neg hconst]
  cases op with
  | add | subtract | multiply | divide => rfl
  | _ => cases hop

/-- A comparison that is written out is no fraction. -/
lemma writesFloat_comparison (hop : op.isComparison = true)
    (hconst : ¬ (l.isConst && r.isConst) = true) :
    (Expr.binary op l r).writesFloat columnType = false := by
  rw [Expr.writesFloat, if_neg hconst, hop]
  cases op with
  | coalesce => cases hop
  | _ => rfl

/-- A value with an alternative for null is written as the value is. -/
lemma writesFloat_coalesce (hconst : ¬ (l.isConst && r.isConst) = true) :
    (Expr.binary .coalesce l r).writesFloat columnType = l.writesFloat columnType := by
  rw [Expr.writesFloat, if_neg hconst]
  rfl

/-- What is known of operands that are written out, if quotients are kept. -/
lemma keeps_operands (hconst : ¬ (l.isConst && r.isConst) = true)
    (h : (Expr.binary op l r).KeepsQuotients columnType) :
    l.KeepsQuotients columnType ∧ (op ≠ .coalesce → r.KeepsQuotients columnType) ∧
      (op = .divide → (Expr.binary op l r).inferType columnType = some .float →
        l.writesFloat columnType = true ∨ r.writesFloat columnType = true) :=
  h.resolve_left hconst

/-- The storage class of a column of the query itself. -/
lemma columnType_own {ref : ColumnRef} {c : Column} (hsource : ref.source = q.source)
    (hc : q.table.column? ref.column = some c) : q.columnType ref = some c.ty := by
  rw [Query.columnType, if_pos hsource, hc]
  rfl

/-- Whether an expression is a float is inferred. -/
lemma inferType_isFloat (h : e.HasKind q.table q.source ty) :
    (e.inferType q.columnType == some .float) = (ty == .float) := by
  rw [h.inferType fun _ _ => columnType_own]
  rfl

/-- A constant operator of one operand is written as a float just if it is one. -/
lemma writesFloat_unary {op : UnaryOp} (h : (Expr.unary op e).HasKind q.table q.source ty)
    (hconst : e.isConst = true) :
    (Expr.unary op e).writesFloat q.columnType = (ty == .float) := by
  rw [Expr.writesFloat, if_pos hconst, inferType_isFloat h]

/-- A constant is written as a fraction if it is a float. -/
lemma writesFloat_binary (h : (Expr.binary op l r).HasKind q.table q.source ty)
    (hconst : (l.isConst && r.isConst) = true) :
    (Expr.binary op l r).writesFloat q.columnType = (ty == .float) := by
  rw [Expr.writesFloat, if_pos hconst, inferType_isFloat h]

/-- Only floats are written as fractions. -/
lemma writesFloat_eq_false (h : e.HasKind q.table q.source ty) (hty : ty ≠ .float) :
    e.writesFloat q.columnType = false := by
  have hinfer := inferType_isFloat h
  rw [beq_false_of_ne hty] at hinfer
  induction h with
  | value | column => exact hinfer
  | negate _ he ih =>
    rw [Expr.writesFloat]
    split
    · exact hinfer
    · exact ih hty hinfer
  | @whole op l r hop hl hr ihl ihr =>
    by_cases hconst : (l.isConst && r.isConst) = true
    · rw [Expr.writesFloat, if_pos hconst, hinfer]
    · rw [writesFloat_elementary hop hconst, ihl hty (inferType_isFloat hl),
        ihr hty (inferType_isFloat hr)]
      rfl
  | mixed => exact absurd rfl hty
  | @coalesce l r tl tr hl _ ih _ =>
    by_cases hconst : (l.isConst && r.isConst) = true
    · rw [Expr.writesFloat, if_pos hconst, hinfer]
    · rw [writesFloat_coalesce hconst]
      refine ih hty ?_
      rw [inferType_isFloat hl, beq_false_of_ne hty]
  | @comparison op l r tl tr hop _ _ _ _ _ =>
    by_cases hconst : (l.isConst && r.isConst) = true
    · rw [Expr.writesFloat, if_pos hconst, hinfer]
    · exact writesFloat_comparison hop hconst
  | widen => exact absurd rfl hty

end Sql

end TableQuery
