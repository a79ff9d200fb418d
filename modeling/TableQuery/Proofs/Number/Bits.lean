import Mathlib.Data.Int.Bitwise
import Mathlib.Tactic.Lemma

/-!
# Bits of integers

An integer has infinitely many bits in two's complement (`Int.testBit`), which are all the same from
some position on, and it is given by them (`eq_of_testBit_eq`).  A word holds the lower ones and
repeats its sign (`testBit_toInt`).  So what the operators on 64-bit integers do bit by bit is what
the operators on all integers do.
-/

namespace TableQuery.Number

/-- A number and the complement of a number differ in a bit. -/
lemma exists_testBit_ne (m n : ℕ) : ∃ k, m.testBit k ≠ !n.testBit k := by
  refine ⟨m + n, ?_⟩
  have hm : m < 2 ^ (m + n) :=
    Nat.lt_of_lt_of_le Nat.lt_two_pow_self (Nat.pow_le_pow_right (by decide) (Nat.le_add_right m n))
  have hn : n < 2 ^ (m + n) :=
    Nat.lt_of_lt_of_le Nat.lt_two_pow_self (Nat.pow_le_pow_right (by decide) (Nat.le_add_left n m))
  rw [Nat.testBit_lt_two_pow hm, Nat.testBit_lt_two_pow hn]
  decide

/-- Integers with the same bits are equal. -/
theorem eq_of_testBit_eq {m n : ℤ} (h : ∀ k, Int.testBit m k = Int.testBit n k) : m = n := by
  cases m with
  | ofNat m =>
    cases n with
    | ofNat n => exact congrArg Int.ofNat (Nat.eq_of_testBit_eq h)
    | negSucc n =>
      obtain ⟨k, hk⟩ := exists_testBit_ne m n
      exact absurd (h k) hk
  | negSucc m =>
    cases n with
    | ofNat n =>
      obtain ⟨k, hk⟩ := exists_testBit_ne n m
      exact absurd (h k).symm hk
    | negSucc n =>
      exact congrArg Int.negSucc (Nat.eq_of_testBit_eq fun k => Bool.not_inj (h k))

section Words

variable {w : ℕ} {x : BitVec w}

/-- A word that is not negative, as an integer. -/
lemma toInt_of_msb_false (h : x.msb = false) : x.toInt = Int.ofNat x.toNat := by
  rw [BitVec.toInt_eq_msb_cond, h]
  rfl

/-- A word that is negative, as an integer. -/
lemma toInt_of_msb_true (h : x.msb = true) : x.toInt = Int.negSucc (~~~x).toNat := by
  have hlt := x.isLt
  rw [BitVec.toInt_eq_msb_cond, if_pos h, BitVec.toNat_not, Int.negSucc_eq]
  omega

/-- The bits of a word as an integer: those of the word, and then its sign. -/
theorem testBit_toInt (x : BitVec w) (k : ℕ) :
    Int.testBit x.toInt k = if k < w then x.getLsbD k else x.msb := by
  cases h : x.msb with
  | false =>
    have hbit : Int.testBit x.toInt k = x.getLsbD k := by
      rw [toInt_of_msb_false h]
      exact BitVec.testBit_toNat x
    rw [hbit]
    split
    case isTrue => rfl
    case isFalse hk => exact BitVec.getLsbD_of_ge x k (Nat.le_of_not_lt hk)
  | true =>
    have hbit : Int.testBit x.toInt k = !(decide (k < w) && !x.getLsbD k) := by
      rw [toInt_of_msb_true h, ← BitVec.getLsbD_not, ← BitVec.testBit_toNat]
      rfl
    rw [hbit]
    split
    case isTrue hk => rw [decide_eq_true hk, Bool.true_and, Bool.not_not]
    case isFalse hk => rw [decide_eq_false hk, Bool.false_and, Bool.not_false]

end Words

section Operators

variable (a b : Int64)

/-- The bits of a 64-bit integer. -/
lemma testBit_int64 (k : ℕ) :
    Int.testBit a.toInt k = if k < 64 then a.toBitVec.getLsbD k else a.toBitVec.msb := by
  rw [← Int64.toInt_toBitVec]
  exact testBit_toInt a.toBitVec k

/-- The conjunction of 64-bit integers, bit by bit, is that of integers. -/
theorem toInt_and : (a &&& b).toInt = Int.land a.toInt b.toInt := by
  refine eq_of_testBit_eq fun k => ?_
  rw [Int.testBit_land, testBit_int64, testBit_int64, testBit_int64, Int64.toBitVec_and,
    BitVec.getLsbD_and, BitVec.msb_and]
  split <;> rfl

/-- The disjunction of 64-bit integers, bit by bit, is that of integers. -/
theorem toInt_or : (a ||| b).toInt = Int.lor a.toInt b.toInt := by
  refine eq_of_testBit_eq fun k => ?_
  rw [Int.testBit_lor, testBit_int64, testBit_int64, testBit_int64, Int64.toBitVec_or,
    BitVec.getLsbD_or, BitVec.msb_or]
  split <;> rfl

/-- The exclusive disjunction of 64-bit integers, bit by bit, is that of integers. -/
theorem toInt_xor : (a ^^^ b).toInt = Int.xor a.toInt b.toInt := by
  refine eq_of_testBit_eq fun k => ?_
  rw [Int.testBit_lxor, testBit_int64, testBit_int64, testBit_int64, Int64.toBitVec_xor,
    BitVec.getLsbD_xor, BitVec.msb_xor]
  split <;> rfl

/-- The complement of a 64-bit integer, bit by bit, is that of an integer. -/
theorem toInt_not : (~~~a).toInt = Int.lnot a.toInt := by
  refine eq_of_testBit_eq fun k => ?_
  rw [Int.testBit_lnot, testBit_int64, testBit_int64, Int64.toBitVec_not, BitVec.getLsbD_not,
    BitVec.msb_not]
  split
  case isTrue hk => rw [decide_eq_true hk, Bool.true_and]
  case isFalse => rfl

end Operators

end TableQuery.Number
