import TableQuery.Proofs.Constant.Operands
import TableQuery.Proofs.Meaning.Folding
import TableQuery.Proofs.Number.Bits

/-!
# Exact folding of integers

An expression of integer literals and operators on integers stands for an integer, computed over all
integers (`Expr.integer`).  Folding computes with 64 bits.  It succeeds if and only if every
intermediate result fits 64 bits and every quotient and remainder is defined, and the result is then
the integer that the expression stands for (`Expr.fold_integers`).  It never wraps: an overflow in
an operand is a failure of the whole, also where the overflow would cancel.
-/

namespace TableQuery

/-- An expression of integer literals under operators on integers. -/
inductive Expr.IsIntegral : Expr → Prop
  | literal (n : Int64) : IsIntegral (.value (.int n))
  | unary {op : UnaryOp} {e : Expr} : op ≠ .not → IsIntegral e → IsIntegral (.unary op e)
  | binary {op : BinaryOp} {l r : Expr} : op.isNumeric = true → IsIntegral l → IsIntegral r →
    IsIntegral (.binary op l r)

/-- What an operator with one operand computes over the integers. -/
def UnaryOp.onInteger : UnaryOp → ℤ → ℤ
  | .bitwiseNot, x => Int.lnot x
  | _, x => -x

/-- What an operator with two operands computes over the integers.  Quotients and remainders round
toward zero, and the bits of integers are those in two's complement. -/
def BinaryOp.onIntegers : BinaryOp → ℤ → ℤ → ℤ
  | .add, x, y => x + y
  | .subtract, x, y => x - y
  | .multiply, x, y => x * y
  | .divide, x, y => x.tdiv y
  | .modulo, x, y => x.tmod y
  | .bitwiseAnd, x, y => Int.land x y
  | .bitwiseOr, x, y => Int.lor x y
  | .exclusiveOr, x, y => Int.xor x y
  | _, _, _ => 0

/-- Whether an operator is defined for two integers: no divisor is zero, and the least integer of 64
bits has no remainder by minus one. -/
def BinaryOp.Defined : BinaryOp → ℤ → ℤ → Prop
  | .divide, _, y => y ≠ 0
  | .modulo, x, y => y ≠ 0 ∧ ¬ (x = -2 ^ 63 ∧ y = -1)
  | _, _, _ => True

/-- The integer that an expression stands for. -/
def Expr.integer : Expr → ℤ
  | .value (.int n) => n.toInt
  | .unary op e => op.onInteger e.integer
  | .binary op l r => op.onIntegers l.integer r.integer
  | _ => 0

/-- Whether an integer has 64 bits. -/
def Fits (x : ℤ) : Prop := -2 ^ 63 ≤ x ∧ x < 2 ^ 63

/-- Whether the operator of an expression is defined for its operands. -/
def Expr.Defined : Expr → Prop
  | .binary op l r => op.Defined l.integer r.integer
  | _ => True

section Results

variable {x y : ℤ} {a b : Int64} {v : Value}

/-- An integer has 64 bits if one of 64 bits is equal to it. -/
lemma fits_iff : Fits x ↔ ∃ n : Int64, n.toInt = x := by
  constructor
  case mp => exact fun h => ⟨Int64.ofInt x, Int64.toInt_ofInt_of_le h.1 h.2⟩
  case mpr =>
    rintro ⟨n, rfl⟩
    exact ⟨n.le_toInt, n.toInt_lt⟩

/-- An integer of the machine fits. -/
lemma fits_toInt (n : Int64) : Fits n.toInt := fits_iff.mpr ⟨n, rfl⟩

/-- A quotient of integers of 64 bits has 64 bits, but for that of the least one by minus one. -/
lemma fits_tdiv (hy : b.toInt ≠ 0) :
    Fits (a.toInt.tdiv b.toInt) ↔ ¬ (a.toInt = -2 ^ 63 ∧ b.toInt = -1) := by
  have hlower := a.le_toInt
  have hupper := a.toInt_lt
  by_cases hone : b.toInt = -1
  case pos =>
    rw [hone, Int.tdiv_neg, Int.tdiv_one]
    unfold Fits
    omega
  case neg =>
    -- One leaves a number as it is, and all other divisors at least halve it.
    have hquotient : Fits (a.toInt.tdiv b.toInt) := by
      by_cases hunit : b.toInt = 1
      · rw [hunit, Int.tdiv_one]
        exact fits_toInt a
      · have hle : (a.toInt.tdiv b.toInt).natAbs ≤ a.toInt.natAbs / 2 := by
          rw [Int.natAbs_tdiv]
          exact Nat.div_le_div_left (by omega) (by decide)
        unfold Fits
        omega
    exact iff_of_true hquotient fun h => hone h.2

/-- A result that is an integer of 64 bits. -/
lemma ok_int_iff {ε : Type} : (.ok (.int a) : Except ε Value) = .ok v ↔
    ∃ n : Int64, v = .int n ∧ n.toInt = a.toInt := by
  constructor
  case mp =>
    intro h
    cases h
    exact ⟨a, rfl, rfl⟩
  case mpr =>
    rintro ⟨n, rfl, hn⟩
    rw [Int64.toInt_inj.mp hn]

/-- An operator with one operand on an integer of 64 bits. -/
lemma unary_ok_iff {op : UnaryOp} (hop : op ≠ .not) :
    Fold.unary op (.int a) = .ok v ↔ ∃ n : Int64, v = .int n ∧ n.toInt = op.onInteger a.toInt := by
  cases op with
  | not => exact absurd rfl hop
  | negate => exact exact_ok_iff
  | bitwiseNot =>
    rw [UnaryOp.onInteger, ← Number.toInt_not]
    exact ok_int_iff

/-- An operator with two operands on integers of 64 bits. -/
lemma binary_ok_iff {op : BinaryOp} (hop : op.isNumeric = true) :
    Fold.binary op (.int a) (.int b) = .ok v ↔
      op.Defined a.toInt b.toInt ∧
        ∃ n : Int64, v = .int n ∧ n.toInt = op.onIntegers a.toInt b.toInt := by
  rw [Sql.binary_ints hop]
  cases op with
  | add | subtract | multiply => exact exact_ok_iff.trans (and_iff_right trivial).symm
  | divide => exact Sql.divides_ok_iff.trans (and_congr_right fun _ => exact_ok_iff)
  | modulo =>
    -- The quotient is computed first, so it has to fit.
    have hremainder : b.toInt ≠ 0 →
        ((Fold.exact (a.toInt.tdiv b.toInt) >>= fun _ => Fold.exact (a.toInt.tmod b.toInt)) =
          .ok v ↔ ¬ (a.toInt = -2 ^ 63 ∧ b.toInt = -1) ∧
            ∃ n : Int64, v = .int n ∧ n.toInt = a.toInt.tmod b.toInt) := by
      intro hb
      rw [← fits_tdiv hb, fits_iff]
      constructor
      case mp =>
        intro h
        obtain ⟨q, hq, hr⟩ := ok_of_bind h
        obtain ⟨n, -, hn⟩ := exact_ok_iff.mp hq
        exact ⟨⟨n, hn⟩, exact_ok_iff.mp hr⟩
      case mpr =>
        rintro ⟨⟨n, hn⟩, hr⟩
        rw [exact_ok_iff.mpr ⟨n, rfl, hn⟩]
        exact exact_ok_iff.mpr hr
    exact Sql.divides_ok_iff.trans ((and_congr_right hremainder).trans and_assoc.symm)
  | bitwiseAnd =>
    rw [BinaryOp.onIntegers, ← Number.toInt_and]
    exact ok_int_iff.trans (and_iff_right trivial).symm
  | bitwiseOr =>
    rw [BinaryOp.onIntegers, ← Number.toInt_or]
    exact ok_int_iff.trans (and_iff_right trivial).symm
  | exclusiveOr =>
    rw [BinaryOp.onIntegers, ← Number.toInt_xor]
    exact ok_int_iff.trans (and_iff_right trivial).symm
  | _ => cases hop

end Results

section Expressions

variable {e : Expr} {v : Value}

/-- An expression of integers folds if and only if it can be computed with 64 bits, and then to the
integer that it stands for. -/
theorem Expr.fold_ok_iff (h : e.IsIntegral) :
    e.fold = .ok v ↔ (∀ x : Expr, x.Within e → Fits x.integer ∧ x.Defined) ∧
      ∃ n : Int64, v = .int n ∧ n.toInt = e.integer := by
  -- The value is carried along, since what is defined at a node depends on the integers below it.
  induction h generalizing v with
  | literal n =>
    rw [fold, forall_within_value, and_iff_right ⟨fits_toInt n, trivial⟩]
    exact ok_int_iff
  | @unary op e hop _ ih =>
    rw [forall_within_unary]
    constructor
    case mp =>
      intro h
      obtain ⟨a, ha, hunary⟩ := fold_unary h
      obtain ⟨hwithin, m, rfl, hm⟩ := ih.mp ha
      obtain ⟨n, rfl, hn⟩ := (unary_ok_iff hop).mp hunary
      have hinteger : n.toInt = (unary op e).integer := by
        rw [hn, hm, integer]
      exact ⟨⟨⟨fits_iff.mpr ⟨n, hinteger⟩, trivial⟩, hwithin⟩, n, rfl, hinteger⟩
    case mpr =>
      rintro ⟨⟨-, hwithin⟩, n, rfl, hn⟩
      obtain ⟨m, hm⟩ := fits_iff.mp (hwithin e .self).1
      rw [fold, ih.mpr ⟨hwithin, m, rfl, hm⟩]
      refine (unary_ok_iff hop).mpr ⟨n, rfl, ?_⟩
      rw [hn, integer, hm]
  | @binary op l r hop _ _ ihl ihr =>
    rw [forall_within_binary]
    constructor
    case mp =>
      intro h
      obtain ⟨a, b, ha, hb, hbinary⟩ := fold_both (BinaryOp.undecided hop) h
      obtain ⟨hl, i, rfl, hi⟩ := ihl.mp ha
      obtain ⟨hr, j, rfl, hj⟩ := ihr.mp hb
      obtain ⟨hdefined, n, rfl, hn⟩ := (binary_ok_iff hop).mp hbinary
      rw [hi, hj] at hdefined hn
      exact ⟨⟨⟨fits_iff.mpr ⟨n, hn⟩, hdefined⟩, hl, hr⟩, n, rfl, hn⟩
    case mpr =>
      rintro ⟨⟨⟨-, hdefined⟩, hl, hr⟩, n, rfl, hn⟩
      obtain ⟨i, hi⟩ := fits_iff.mp (hl l .self).1
      obtain ⟨j, hj⟩ := fits_iff.mp (hr r .self).1
      rw [fold_binary_of_both (ihl.mpr ⟨hl, i, rfl, hi⟩) (BinaryOp.undecided hop _)
        (ihr.mpr ⟨hr, j, rfl, hj⟩)]
      refine (binary_ok_iff hop).mpr ?_
      rw [hi, hj]
      exact ⟨hdefined, n, rfl, hn⟩

/-- Folding integers is exact or fails: it succeeds if and only if every intermediate result has 64
bits, no divisor is zero, and no remainder is that of the least integer by minus one; and then the
result is the integer that the expression stands for. -/
theorem Expr.fold_integers (h : e.IsIntegral) :
    ((∃ v, e.fold = .ok v) ↔ ∀ x : Expr, x.Within e → Fits x.integer ∧ x.Defined) ∧
      ∀ v, e.fold = .ok v → ∃ n : Int64, v = .int n ∧ n.toInt = e.integer := by
  constructor
  case left =>
    constructor
    case mp =>
      rintro ⟨v, hv⟩
      exact ((fold_ok_iff h).mp hv).1
    case mpr =>
      intro hwithin
      obtain ⟨n, hn⟩ := fits_iff.mp (hwithin e .self).1
      exact ⟨.int n, (fold_ok_iff h).mpr ⟨hwithin, n, rfl, hn⟩⟩
  case right => exact fun v hv => ((fold_ok_iff h).mp hv).2

/-- The least integer has no opposite of 64 bits, so its opposite minus one does not fold although
the result would fit. -/
theorem Expr.fold_integers_overflow :
    (binary .subtract (.unary .negate (.value (.int Int64.minValue))) (.value (.int 1))).integer =
        2 ^ 63 - 1 ∧
      ¬ ∃ v, (binary .subtract (.unary .negate (.value (.int Int64.minValue)))
        (.value (.int 1))).fold = .ok v := by
  have hintegral : (binary .subtract (.unary .negate (.value (.int Int64.minValue)))
      (.value (.int 1))).IsIntegral :=
    .binary rfl (.unary nofun (.literal _)) (.literal _)
  refine ⟨rfl, fun hfolds => ?_⟩
  have hopposite := (fold_integers hintegral).1.mp hfolds
    (.unary .negate (.value (.int Int64.minValue))) (.operand List.mem_cons_self .self)
  exact absurd hopposite.1.2 (by decide)

end Expressions

end TableQuery
