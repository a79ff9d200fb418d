import TableQuery.Expr.Fold
import TableQuery.Proofs.Number.Order
import TableQuery.Proofs.Operator

/-!
# Turned comparisons

A comparison may be read from the other side: the operands change places, and the operator becomes
the one for the opposite order.  The order of two values is turned around with them, whatever kinds
they are of, so that a comparison of constants folds to the same truth value either way, or it fails
either way (`comparison_commute`).
-/

namespace TableQuery

section Order

/-- One comparison after another is turned with both. -/
lemma swap_then_of {a a' b b' : Ordering} (ha : a' = a.swap) (hb : b' = b.swap) :
    a'.then b' = (a.then b).swap := by
  rw [Ordering.swap_then, ha, hb]

/-- Integers compare the other way when they are exchanged. -/
lemma compare_int_swap (m n : Int) : compare n m = (compare m n).swap := Std.OrientedCmp.eq_swap

/-- Natural numbers compare the other way when they are exchanged. -/
lemma compare_nat_swap (m n : Nat) : compare n m = (compare m n).swap := Std.OrientedCmp.eq_swap

/-- The parts of a date compare the other way when they are exchanged. -/
lemma compareLex_swap : (xs ys : List Int) →
    Calendar.DateTime.compare.compareLex ys xs = (Calendar.DateTime.compare.compareLex xs ys).swap
  | [], [] | [], _ :: _ | _ :: _, [] => rfl
  | x :: xs, y :: ys => swap_then_of (compare_int_swap x y) (compareLex_swap xs ys)

/-- Texts of bytes compare the other way when they are exchanged. -/
lemma compareBytes_swap : (xs ys : List UInt8) →
    Value.compareBytes ys xs = (Value.compareBytes xs ys).swap
  | [], [] | [], _ :: _ | _ :: _, [] => rfl
  | x :: xs, y :: ys => swap_then_of (compare_nat_swap x.toNat y.toNat) (compareBytes_swap xs ys)

/-- Identifiers compare the other way when they are exchanged. -/
lemma compareDigits_swap : (xs ys : List (Fin 16)) →
    Value.compare?.compareDigits ys xs = (Value.compare?.compareDigits xs ys).swap
  | [], [] | [], _ :: _ | _ :: _, [] => rfl
  | x :: xs, y :: ys => swap_then_of (compare_nat_swap x.val y.val) (compareDigits_swap xs ys)

/-- Turning two values around turns their order around. -/
theorem Value.compare?_swap (v w : Value) : w.compare? v = (v.compare? w).map Ordering.swap := by
  cases v with
  | null => cases w <;> rfl
  | bool a =>
    cases w with
    | bool b => exact congrArg some (compare_nat_swap a.toNat b.toNat)
    | _ => rfl
  -- Integers are turned into floats beside a float, and both sides are turned alike.
  | int a | enum a =>
    cases w with
    | int b | enum b => exact congrArg some (compare_int_swap a.toInt b.toInt)
    | float y => exact compareFloats_swap _ y
    | _ => rfl
  | float x =>
    cases w with
    | int b | enum b => exact compareFloats_swap x _
    | float y => exact compareFloats_swap x y
    | _ => rfl
  | text a =>
    cases w with
    | text b => exact congrArg some Std.OrientedCmp.eq_swap
    | _ => rfl
  | dateTime a =>
    cases w with
    | dateTime b => exact congrArg some (compareLex_swap a.parts b.parts)
    | _ => rfl
  | guid a =>
    cases w with
    | guid b => exact congrArg some (compareDigits_swap a.digits b.digits)
    | _ => rfl
  | blob a =>
    cases w with
    | blob b => exact congrArg some (compareBytes_swap a b)
    | _ => rfl

end Order

section Folding

/-- A turned operator holds of operands that compare the other way. -/
lemma satisfies_commute (op : BinaryOp) (o : Ordering) :
    Fold.satisfies op.commute o.swap = Fold.satisfies op o := by
  cases op <;> cases o <;> rfl

/-- Two results are the same truth value, or both are failures. -/
def SameTruth (x y : Except Error Value) : Prop :=
  (∃ b, x = .ok (.bool b) ∧ y = .ok (.bool b)) ∨ ∃ err err', x = .error err ∧ y = .error err'

/-- A comparison of two values and the turned one. -/
lemma comparison_commute {op : BinaryOp} (hop : op.isComparison = true) (v w : Value) :
    SameTruth (Fold.comparison op v w) (Fold.comparison op.commute w v) := by
  rw [Fold.comparison, Fold.comparison, Value.compare?_swap v w]
  cases v.compare? w with
  | some o =>
    refine .inl ⟨Fold.satisfies op o, rfl, ?_⟩
    rw [← satisfies_commute]
    rfl
  | none =>
    -- There is no order: equality is decided by null, and an order holds with null only.
    dsimp only [Option.map_none]
    rw [Bool.and_comm w.isNull, Bool.or_comm w.isNull]
    cases op with
    | equal => exact .inl ⟨_, rfl, rfl⟩
    | notEqual => exact .inl ⟨_, rfl, rfl⟩
    | lessThan | lessThanOrEqual | greaterThan | greaterThanOrEqual =>
      cases hnull : v.isNull || w.isNull with
      | true => exact .inl ⟨false, rfl, rfl⟩
      | false => exact .inr ⟨_, _, rfl, rfl⟩
    | _ => cases hop

/-- A comparison of two values folds to whether it holds of them. -/
lemma fold_comparison_values {op : BinaryOp} (hop : op.isComparison = true) (v w : Value) :
    (Expr.binary op (.value v) (.value w)).fold = Fold.comparison op v w := by
  cases op with
  | equal | notEqual | lessThan | lessThanOrEqual | greaterThan | greaterThanOrEqual => rfl
  | _ => cases hop

end Folding

/-- A comparison of two values folds to the same truth value from either side, or fails from either
side. -/
theorem fold_commute {op : BinaryOp} (hop : op.isComparison = true) (v w : Value) :
    SameTruth (Expr.binary op (.value v) (.value w)).fold
      (Expr.binary op.commute (.value w) (.value v)).fold := by
  have hcommute : op.commute.isComparison = true := op.isComparison_commute.trans hop
  rw [fold_comparison_values hop, fold_comparison_values hcommute]
  exact comparison_commute hop v w

end TableQuery
