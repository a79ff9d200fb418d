import Mathlib.Data.String.Basic
import TableQuery.Expr.Fold
import TableQuery.Proofs.Meaning.Evaluation
import TableQuery.Proofs.Number.Decimal
import TableQuery.Proofs.Tree.Phrases

/-!
# Operators on constants and in texts

Where folding computes a value from two operands, the sign of the operator computes the same on a
server (`operated_of_comparison`, `operated_of_binary`); a comparison may trade its operands
(`operated_commute`); and an exclusive or is the difference of an inclusive one and a conjunction
(`computed_exclusiveOr`).
-/

namespace TableQuery

/-- An exact result is the integer of 64 bits that is equal to it. -/
lemma exact_ok_iff {x : ℤ} {v : Value} :
    Fold.exact x = .ok v ↔ ∃ n : Int64, v = .int n ∧ n.toInt = x := by
  unfold Fold.exact
  cases h : Number.int64? x with
  | some m =>
    constructor
    case mp =>
      intro hv
      cases hv
      exact ⟨m, rfl, Number.int64?_eq_some.mp h⟩
    case mpr =>
      rintro ⟨n, rfl, hn⟩
      rw [Number.int64?_eq_some.mpr hn] at h
      cases h
      rfl
  | none =>
    constructor
    case mp => nofun
    case mpr =>
      rintro ⟨n, -, hn⟩
      rw [Number.int64?_eq_some.mpr hn] at h
      cases h

namespace Sql

/-- The number of a 64-bit integer fits. -/
lemma fitted_toInt (a : Int64) : fitted a.toInt = some (.int a) := by
  rw [fitted, Number.int64?_toInt]
  rfl

section Comparisons

variable {op : BinaryOp}

/-- A sign stands for the relation that the operator tests. -/
lemma related_symbol {α : Type} [LinearOrder α] (hop : op.isComparison = true) (a b : α) :
    related op.symbol a b = some (ofTruth (some (Fold.satisfies op (compare a b)))) := by
  obtain h | h | h := lt_trichotomy a b
  · rw [compare_lt_iff_lt.mpr h]
    cases op with
    | equal | notEqual | lessThan | lessThanOrEqual | greaterThan | greaterThanOrEqual =>
      simp [related, BinaryOp.symbol, Fold.satisfies, h, h.ne, h.not_gt] <;> rfl
    | _ => cases hop
  · rw [compare_eq_iff_eq.mpr h, h]
    cases op with
    | equal | notEqual | lessThan | lessThanOrEqual | greaterThan | greaterThanOrEqual =>
      simp [related, BinaryOp.symbol, Fold.satisfies] <;> rfl
    | _ => cases hop
  · rw [compare_gt_iff_gt.mpr h]
    cases op with
    | equal | notEqual | lessThan | lessThanOrEqual | greaterThan | greaterThanOrEqual =>
      simp [related, BinaryOp.symbol, Fold.satisfies, h, h.ne', h.not_gt] <;> rfl
    | _ => cases hop

/-- The sign of a comparison neither computes a number nor joins texts. -/
lemma computed_symbol (hop : op.isComparison = true) (a b : Int64) (s t : String) :
    computed op.symbol a b = related op.symbol a.toInt b.toInt ∧
      operated op.symbol (.text s) (.text t) = related op.symbol s t := by
  cases op with
  | equal | notEqual | lessThan | lessThanOrEqual | greaterThan | greaterThanOrEqual =>
    exact ⟨rfl, rfl⟩
  | _ => cases hop

/-- A comparison of two values of one class, in a text. -/
theorem operated_of_comparison {ty : ColumnType} {a b v : Value} (hop : op.isComparison = true)
    (hty : ty = .int ∨ ty = .bool ∨ ty = .text) (ha : a.type? = some ty) (hb : b.type? = some ty)
    (h : Fold.comparison op a b = .ok v) :
    operated op.symbol a.stored b.stored = some v.stored := by
  obtain rfl | rfl | rfl := hty
  · cases a with
    | int a =>
      cases b with
      | int b =>
        cases h
        exact ((computed_symbol hop a b "" "").1).trans (related_symbol hop a.toInt b.toInt)
      | _ => cases hb
    | _ => cases ha
  · cases a with
    | bool a =>
      cases b with
      | bool b =>
        cases h
        cases op with
        | equal | notEqual | lessThan | lessThanOrEqual | greaterThan | greaterThanOrEqual =>
          cases a <;> cases b <;> rfl
        | _ => cases hop
      | _ => cases hb
    | _ => cases ha
  · cases a with
    | text a =>
      cases b with
      | text b =>
        cases h
        exact ((computed_symbol hop 0 0 a b).2).trans (related_symbol hop a b)
      | _ => cases hb
    | _ => cases ha

/-- A relation may trade its members. -/
lemma related_commute {α : Type} [DecidableEq α] [LT α] [DecidableLT α]
    (hop : op.isComparison = true) (a b : α) :
    related op.commute.symbol b a = related op.symbol a b := by
  cases op with
  | equal | notEqual => simp [related, BinaryOp.symbol, BinaryOp.commute, eq_comm]
  | lessThan | lessThanOrEqual | greaterThan | greaterThanOrEqual => rfl
  | _ => cases hop

/-- A comparison may trade its operands. -/
theorem operated_commute (hop : op.isComparison = true) (a b : Value) :
    operated op.commute.symbol b a = operated op.symbol a b := by
  have hcommute := op.isComparison_commute.trans hop
  cases a with
  | int a =>
    cases b with
    | int b =>
      have hl := (computed_symbol hcommute b a "" "").1
      have hr := (computed_symbol hop a b "" "").1
      exact hl.trans ((related_commute hop a.toInt b.toInt).trans hr.symm)
    | _ => rfl
  | text a =>
    cases b with
    | text b =>
      have hl := (computed_symbol hcommute 0 0 b a).2
      have hr := (computed_symbol hop 0 0 a b).2
      exact hl.trans ((related_commute hop a b).trans hr.symm)
    | _ => rfl
  | _ => cases b <;> rfl

end Comparisons

section Numbers

variable {op : BinaryOp} {a b : Int64} {v : Value}

/-- An exact result is an integer that fits. -/
lemma type?_of_exact {n : Int} (h : Fold.exact n = .ok v) :
    fitted n = some v.stored ∧ v.type? = some .int := by
  unfold Fold.exact at h
  rw [fitted]
  cases hn : Number.int64? n with
  | none =>
    rw [hn] at h
    cases h
  | some m =>
    rw [hn] at h
    cases h
    exact ⟨rfl, rfl⟩

/-- Folding an operator between two integers is arithmetic or bitwise. -/
lemma binary_ints (hop : op.isNumeric = true) :
    Fold.binary op (.int a) (.int b) =
      if op.isArithmetic then Fold.intArithmetic op a b else Fold.bitwise op (.int a) (.int b) := by
  cases op with
  | add | subtract | multiply | divide | modulo | bitwiseAnd | bitwiseOr | exclusiveOr => rfl
  | _ => cases hop

/-- A quotient or a remainder is only folded for a divisor that is not zero. -/
lemma divides_ok_iff {x : Except Error Value} {y : Int} {e : Error} :
    (if y = 0 then .error e else x) = .ok v ↔ y ≠ 0 ∧ x = .ok v := by
  by_cases hy : y = 0
  case pos =>
    rw [if_pos hy]
    exact iff_of_false nofun fun h => h.1 hy
  case neg =>
    rw [if_neg hy]
    exact (and_iff_right hy).symm

/-- An operator between two integers, in a text. -/
theorem operated_of_binary (hop : op.isNumeric = true)
    (h : Fold.binary op (.int a) (.int b) = .ok v) :
    operated op.symbol (.int a) (.int b) = some v.stored ∧ v.type? = some .int := by
  rw [binary_ints hop] at h
  cases op with
  | add | subtract | multiply => exact type?_of_exact h
  | divide =>
    obtain ⟨hb, h⟩ := divides_ok_iff.mp h
    obtain ⟨hfits, hty⟩ := type?_of_exact h
    exact ⟨(if_neg hb).trans hfits, hty⟩
  | modulo =>
    obtain ⟨hb, h⟩ := divides_ok_iff.mp h
    cases hq : Fold.exact (a.toInt.tdiv b.toInt) with
    | error e =>
      rw [hq] at h
      cases h
    | ok q =>
      rw [hq] at h
      obtain ⟨hfits, hty⟩ := type?_of_exact h
      exact ⟨(if_neg hb).trans hfits, hty⟩
  | bitwiseAnd | bitwiseOr | exclusiveOr =>
    cases h
    exact ⟨rfl, rfl⟩
  | _ => cases hop

/-- An inclusive or of integers is the sum of their conjunction and their exclusive or. -/
lemma toInt_or (a b : Int64) : (a ||| b).toInt = (a &&& b).toInt + (a ^^^ b).toInt := by
  have hdisjoint : (a.toBitVec &&& b.toBitVec) &&& (a.toBitVec ^^^ b.toBitVec) = 0#64 := by
    ext i hi
    rw [BitVec.getElem_and, BitVec.getElem_and, BitVec.getElem_xor, BitVec.getElem_zero]
    cases a.toBitVec[i] <;> cases b.toBitVec[i] <;> rfl
  have hor : (a.toBitVec &&& b.toBitVec) + (a.toBitVec ^^^ b.toBitVec) =
      a.toBitVec ||| b.toBitVec := by
    rw [BitVec.add_eq_or_of_and_eq_zero _ _ hdisjoint]
    ext i hi
    rw [BitVec.getElem_or, BitVec.getElem_and, BitVec.getElem_xor, BitVec.getElem_or]
    cases a.toBitVec[i] <;> cases b.toBitVec[i] <;> rfl
  have hsum := BitVec.toNat_add_of_and_eq_zero hdisjoint
  rw [hor] at hsum
  -- the sign bits add up as all others do, so the signed numbers do too
  rw [← Int64.toInt_toBitVec, ← Int64.toInt_toBitVec, ← Int64.toInt_toBitVec, Int64.toBitVec_or,
    Int64.toBitVec_and, Int64.toBitVec_xor, BitVec.toInt_eq_msb_cond, BitVec.toInt_eq_msb_cond,
    BitVec.toInt_eq_msb_cond, BitVec.msb_or, BitVec.msb_and, BitVec.msb_xor, hsum]
  cases a.toBitVec.msb <;> cases b.toBitVec.msb <;> simp <;> omega

/-- The exclusive or of two integers, where there is no sign for it. -/
theorem computed_exclusiveOr (a b : Int64) :
    operated "-" (.int (a ||| b)) (.int (a &&& b)) = some (.int (a ^^^ b)) := by
  have hdifference : (a ||| b).toInt - (a &&& b).toInt = (a ^^^ b).toInt := by
    rw [toInt_or]
    omega
  have hsign : operated "-" (.int (a ||| b)) (.int (a &&& b)) =
    fitted ((a ||| b).toInt - (a &&& b).toInt) := rfl
  rw [hsign, hdifference, fitted_toInt]

/-- An operator before an integer, in a text. -/
theorem signed_of_unary {op : UnaryOp} (hop : op ≠ .not) (h : Fold.unary op (.int a) = .ok v) :
    signed op.symbol (.int a) = some v.stored ∧ v.type? = some .int := by
  cases op with
  | not => exact absurd rfl hop
  | negate => exact type?_of_exact h
  | bitwiseNot =>
    cases h
    exact ⟨rfl, rfl⟩

end Numbers

/-- Two texts are joined by the sign that the dialect has for it. -/
lemma operated_concatSign (d : Dialect) (s t : String) :
    operated (concatSign d) (.text s) (.text t) = some (.text (s ++ t)) := by
  cases d <;> rfl

end Sql

end TableQuery
