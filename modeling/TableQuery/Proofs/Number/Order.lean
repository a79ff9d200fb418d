import Mathlib.Algebra.Order.Field.Power
import Mathlib.Data.Rat.Defs
import Mathlib.Tactic.Positivity
import Mathlib.Tactic.Ring
import TableQuery.Value

/-!
# The order of floats

A finite float is a rational number, and finite floats compare as these numbers do
(`compareFloats_of_rational?`).  Floats are compared by their signs, exponents and mantissas.  That
is right because a float is in canonical form: a mantissa lacks its leading bit at the least
exponent only, so of two numbers with different exponents the one with the smaller exponent is
smaller (`Binary.Canonical.magnitude_lt`).
-/

namespace TableQuery

namespace Number

open Float.Model
open Float.Model.UnpackedFloat (unpackMantissa unpackExponent unpackSign Sign)

namespace Binary

/-- The size of a finite binary number. -/
def magnitude (b : Binary) : ℚ := b.mantissa * 2 ^ b.exponent

/-- The rational number that a finite binary number is. -/
def value (b : Binary) : ℚ := if b.negative then -b.magnitude else b.magnitude

/-- The sign of a finite binary number. -/
def sign (b : Binary) : Sign := if b.negative then .negative else .positive

/-- Whether a finite binary number is one of the 64-bit format, with as many bits in its mantissa as
the format has room for. -/
structure Canonical (b : Binary) : Prop where
  mantissa_lt : b.mantissa < 2 ^ 53
  least_le : -1074 ≤ b.exponent
  leading : -1074 < b.exponent → 2 ^ 52 ≤ b.mantissa

end Binary

/-- The rational number that a float stands for; infinities and not-a-number stand for none. -/
def rational? (x : Float) : Option ℚ := (finite? x).map Binary.value

section Unpacking

variable {x : Float} {b : Binary}

/-- The mantissa is in the lowest bits. -/
lemma unpackMantissa_toNat (v : BitVec 64) :
    (@unpackMantissa .binary64 v).toNat = v.toNat % 2 ^ 52 := by
  simp [unpackMantissa, BitVec.extractLsb_toNat]

/-- The exponent is in the bits above the mantissa. -/
lemma unpackExponent_toNat (v : BitVec 64) :
    (@unpackExponent .binary64 v).toNat = v.toNat % 2 ^ 63 / 2 ^ 52 := by
  simp only [unpackExponent, BitVec.toNat_cast, BitVec.extractLsb_toNat,
    Nat.shiftRight_eq_div_pow]
  omega

/-- The sign is in the highest bit. -/
lemma unpackSign_eq (x : Float) :
    Sign.ofBitVec (@unpackSign .binary64 x.toBits.toBitVec) =
      if signBit x then .negative else .positive := by
  have hsign : (@unpackSign .binary64 x.toBits.toBitVec).toNat =
      x.toBits.toNat / 2 ^ 63 := by
    have hlt := x.toBits.toBitVec.isLt
    change (x.toBits.toBitVec.extractLsb 63 63).toNat = _
    simp only [BitVec.extractLsb_toNat, Nat.shiftRight_eq_div_pow, UInt64.toNat_toBitVec] at hlt ⊢
    omega
  have hzero : @unpackSign .binary64 x.toBits.toBitVec = 0#1 ↔ signBit x = false := by
    rw [← BitVec.toNat_inj, hsign, signBit, decide_eq_false_iff_not]
    change x.toBits.toNat / 2 ^ 63 = 0 ↔ ¬ 2 ^ 63 ≤ x.toBits.toNat
    omega
  rw [Sign.ofBitVec]
  cases hx : signBit x with
  | false => rw [if_pos (hzero.mpr hx), if_neg Bool.false_ne_true]
  | true =>
    rw [hx] at hzero
    rw [if_neg (hzero.not.mpr Bool.false_ne_true.symm), if_pos rfl]

/-- The fields of a finite float: without an exponent, the mantissa is without its leading bit. -/
lemma finite?_cases (h : finite? x = some b) :
    x.toBits.toNat % 2 ^ 63 / 2 ^ 52 = 0 ∧ b = ⟨signBit x, x.toBits.toNat % 2 ^ 52, -1074⟩ ∨
      ∃ field < 2046, x.toBits.toNat % 2 ^ 63 / 2 ^ 52 = field + 1 ∧
        b = ⟨signBit x, x.toBits.toNat % 2 ^ 52 + 2 ^ 52, -1074 + field⟩ := by
  have hfraction : x.toBits.toNat % 2 ^ 63 % 2 ^ 52 = x.toBits.toNat % 2 ^ 52 := by omega
  have hparts : finite? x = (double.parts? (x.toBits.toNat % 2 ^ 63)).map
      fun p => ⟨signBit x, p.1, p.2⟩ := by
    unfold finite?
    cases double.parts? (x.toBits.toNat % Nat.pow 2 63) <;> rfl
  rw [hparts, Format.parts?] at h
  simp only [double, Nat.pow_eq, hfraction] at h
  cases hfield : x.toBits.toNat % 2 ^ 63 / 2 ^ 52 with
  | zero =>
    rw [hfield, if_pos rfl] at h
    cases h
    exact .inl ⟨rfl, rfl⟩
  | succ field =>
    rw [hfield, if_neg (Nat.succ_ne_zero field)] at h
    by_cases hlt : field + 1 < 2047
    · rw [if_pos hlt] at h
      cases h
      exact .inr ⟨field, by omega, rfl, rfl⟩
    · rw [if_neg hlt] at h
      cases h

/-- A float that is finite is written in the one way. -/
lemma finite?_canonical (h : finite? x = some b) : b.Canonical := by
  have hfraction : x.toBits.toNat % 2 ^ 52 < 2 ^ 52 := Nat.mod_lt _ (Nat.two_pow_pos 52)
  obtain ⟨-, rfl⟩ | ⟨field, -, -, rfl⟩ := finite?_cases h
  · exact ⟨by dsimp only; omega, le_rfl, fun hlt => absurd hlt (lt_irrefl _)⟩
  · exact ⟨by dsimp only; omega, by dsimp only; omega, fun _ => by dsimp only; omega⟩

/-- Floats with the same sign, mantissa and exponent are the same. -/
lemma finite_congr {s s' : Sign} {m m' : ℕ} {e e' : ℤ} {hpos : 0 < m} (hs : s = s') (hm : m = m')
    (he : e = e') :
    ∃ hpos', UnpackedFloat.finite s m e hpos = UnpackedFloat.finite s' m' e' hpos' := by
  subst hs hm he
  exact ⟨hpos, rfl⟩

/-- A finite float is a zero, or is unpacked to the sign, the mantissa and the exponent of its
number. -/
lemma unpack_of_finite? (h : finite? x = some b) :
    b.mantissa = 0 ∧ (∃ s, x.toModel.unpack = .zero s) ∨
      ∃ hpos, x.toModel.unpack = .finite b.sign b.mantissa b.exponent hpos := by
  have hsign := unpackSign_eq x
  have hmantissa := unpackMantissa_toNat x.toBits.toBitVec
  have hexponent := unpackExponent_toNat x.toBits.toBitVec
  rw [UInt64.toNat_toBitVec] at hmantissa hexponent
  have hunpack : x.toModel.unpack = UnpackedFloat.unpack .binary64 x.toBits.toBitVec := rfl
  have hbias : Format.binary64.exponentBias = 1023 := rfl
  -- The largest exponent is that of the infinities and of what is no number.
  have hfinite : @unpackExponent .binary64 x.toBits.toBitVec ≠ -1#11 := by
    intro hmax
    rw [hmax] at hexponent
    obtain ⟨hfield, -⟩ | ⟨field, hlt, hfield, -⟩ := finite?_cases h
    · rw [hfield] at hexponent
      cases hexponent
    · rw [hfield] at hexponent
      have hmax : (-1#11).toNat = 2047 := rfl
      omega
  rw [hunpack]
  delta UnpackedFloat.unpack
  dsimp only
  rw [if_neg hfinite]
  obtain ⟨hfield, rfl⟩ | ⟨field, hlt, hfield, rfl⟩ := finite?_cases h
  · rw [hfield] at hexponent
    have hzero : @unpackExponent .binary64 x.toBits.toBitVec = 0#11 :=
      BitVec.eq_of_toNat_eq hexponent
    rw [if_pos hzero]
    -- With the exponent zero the number is zero, or subnormal and without the leading one.
    by_cases hm : @unpackMantissa .binary64 x.toBits.toBitVec = 0#52
    · rw [dif_pos hm]
      rw [hm] at hmantissa
      exact .inl ⟨hmantissa.symm, _, rfl⟩
    · rw [dif_neg hm]
      refine .inr (finite_congr hsign hmantissa ?_)
      rw [hexponent, hbias]
      rfl
  · rw [hfield] at hexponent
    have hzero : @unpackExponent .binary64 x.toBits.toBitVec ≠ 0#11 := by
      intro hzero
      rw [hzero] at hexponent
      cases hexponent
    rw [if_neg hzero]
    refine .inr (finite_congr hsign ?_ ?_)
    · rw [BitVec.toNat_append, ← Nat.shiftLeft_add_eq_or_of_lt (BitVec.isLt _), hmantissa]
      exact Nat.add_comm _ _
    · rw [hexponent, hbias]
      push_cast
      omega

end Unpacking

namespace Binary.Canonical

variable {a b : Binary}

/-- Of two numbers with different exponents, the one with the smaller exponent is smaller. -/
theorem magnitude_lt (ha : a.Canonical) (hb : b.Canonical) (h : a.exponent < b.exponent) :
    a.magnitude < b.magnitude := by
  have hmantissa : (a.mantissa : ℚ) < 2 ^ 53 := by exact_mod_cast ha.mantissa_lt
  have hleading : (2 : ℚ) ^ 52 ≤ b.mantissa := by
    exact_mod_cast hb.leading (ha.least_le.trans_lt h)
  have hexponent : (2 : ℚ) ^ (a.exponent + 1) ≤ 2 ^ b.exponent :=
    zpow_le_zpow_right₀ one_le_two h
  calc a.magnitude < 2 ^ 53 * 2 ^ a.exponent := mul_lt_mul_of_pos_right hmantissa (by positivity)
    _ = 2 ^ 52 * 2 ^ (a.exponent + 1) := by
      rw [zpow_add_one₀ two_ne_zero]
      ring
    _ ≤ b.magnitude := mul_le_mul hleading hexponent (by positivity) (by positivity)

/-- The sizes of two numbers compare as their exponents do, and then their mantissas. -/
lemma compare_magnitude (ha : a.Canonical) (hb : b.Canonical) :
    (compare a.exponent b.exponent).then (compare a.mantissa b.mantissa) =
      compare a.magnitude b.magnitude := by
  obtain h | h | h := lt_trichotomy a.exponent b.exponent
  · rw [compare_lt_iff_lt.mpr h, compare_lt_iff_lt.mpr (ha.magnitude_lt hb h)]
    rfl
  · have hmono : StrictMono fun m : ℕ => (m : ℚ) * 2 ^ b.exponent := by
      intro m n hmn
      exact mul_lt_mul_of_pos_right (Nat.cast_lt.mpr hmn) (by positivity)
    rw [compare_eq_iff_eq.mpr h, magnitude, magnitude, h, ← cmp_eq_compare (_ : ℚ),
      hmono.cmp_map_eq, cmp_eq_compare]
    rfl
  · rw [compare_gt_iff_gt.mpr h, compare_gt_iff_gt.mpr (hb.magnitude_lt ha h)]
    rfl

end Binary.Canonical

section Comparison

variable {x y : Float} {a b : Binary}

/-- A number with a mantissa above zero is not zero. -/
lemma Binary.magnitude_pos (h : 0 < a.mantissa) : 0 < a.magnitude := by
  have hpos : (0 : ℚ) < a.mantissa := by exact_mod_cast h
  exact mul_pos hpos (by positivity)

/-- A number with a mantissa of zero is zero. -/
lemma Binary.value_of_mantissa (h : a.mantissa = 0) : a.value = 0 := by
  simp [value, magnitude, h]

/-- Negated numbers compare the other way. -/
lemma compare_neg (m n : ℚ) : (compare m n).swap = compare (-m) (-n) := by
  have hanti : StrictAnti fun x : ℚ => -x := fun _ _ h => neg_lt_neg h
  rw [← Std.OrientedCmp.eq_swap, ← cmp_eq_compare, ← cmp_eq_compare, ← hanti.cmp_map_eq]

/-- Two finite floats compare as their numbers. -/
theorem unpack_compare (hx : finite? x = some a) (hy : finite? y = some b) :
    x.toModel.unpack.compare y.toModel.unpack = some (compare a.value b.value) := by
  have hmagnitude := (finite?_canonical hx).compare_magnitude (finite?_canonical hy)
  -- The sign of a zero does not count; any other number lies on the side of its sign.
  obtain ⟨ha, s, hux⟩ | ⟨ha, hux⟩ := unpack_of_finite? hx
  · obtain ⟨hb, t, huy⟩ | ⟨hb, huy⟩ := unpack_of_finite? hy
    · rw [hux, huy, Binary.value_of_mantissa ha, Binary.value_of_mantissa hb,
        compare_eq_iff_eq.mpr rfl]
      rfl
    · have hpos := Binary.magnitude_pos hb
      rw [hux, huy, Binary.value_of_mantissa ha, Binary.value, Binary.sign]
      cases b.negative with
      | false => exact congrArg some (compare_lt_iff_lt.mpr hpos).symm
      | true => exact congrArg some (compare_gt_iff_gt.mpr (neg_neg_of_pos hpos)).symm
  · have hapos := Binary.magnitude_pos ha
    obtain ⟨hb, t, huy⟩ | ⟨hb, huy⟩ := unpack_of_finite? hy
    · rw [hux, huy, Binary.value_of_mantissa hb, Binary.value, Binary.sign]
      cases a.negative with
      | false => exact congrArg some (compare_gt_iff_gt.mpr hapos).symm
      | true => exact congrArg some (compare_lt_iff_lt.mpr (neg_neg_of_pos hapos)).symm
    · have hbpos := Binary.magnitude_pos hb
      rw [hux, huy, Binary.value, Binary.value, Binary.sign, Binary.sign]
      cases a.negative with
      | false =>
        cases b.negative with
        | false => exact congrArg some hmagnitude
        | true =>
          refine congrArg some (compare_gt_iff_gt.mpr ?_).symm
          exact (neg_neg_of_pos hbpos).trans hapos
      | true =>
        cases b.negative with
        | false =>
          refine congrArg some (compare_lt_iff_lt.mpr ?_).symm
          exact (neg_neg_of_pos hapos).trans hbpos
        | true =>
          -- The order of the sizes is turned around.
          exact congrArg some ((congrArg Ordering.swap hmagnitude).trans (compare_neg _ _))

end Comparison

end Number

section Floats

variable {x y : Float}

/-- Turning two unpacked numbers around turns their order around. -/
lemma unpacked_compare_swap (a b : Float.Model.UnpackedFloat) :
    b.compare a = (a.compare b).map Ordering.swap := by
  have hparts : ∀ (e f : ℤ) (m n : ℕ),
      (compare f e).then (compare n m) = ((compare e f).then (compare m n)).swap := by
    intro e f m n
    rw [Ordering.swap_then, ← Std.OrientedCmp.eq_swap, ← Std.OrientedCmp.eq_swap]
  rcases a with (_ | _) | _ | _ | ⟨_ | _, m, e, hm⟩ <;>
    rcases b with (_ | _) | _ | _ | ⟨_ | _, n, f, hn⟩ <;> try rfl
  case finite.negative.finite.negative =>
    exact congrArg some (congrArg Ordering.swap (hparts e f m n))
  case finite.positive.finite.positive => exact congrArg some (hparts e f m n)

/-- The order of two floats is that of their unpacked numbers. -/
lemma Value.compareFloats_eq (x y : Float) :
    compareFloats x y = x.toModel.unpack.compare y.toModel.unpack := by
  have hlt : ∀ x y : Float, x < y ↔ x.toModel.unpack.compare y.toModel.unpack = some .lt := by
    intro x y
    have hmodel : x < y ↔ decide (x.toModel < y.toModel) = true := Iff.rfl
    exact hmodel.trans (decide_eq_true_iff.trans beq_iff_eq)
  have heq : (x == y) = (x.toModel.unpack.compare y.toModel.unpack == some .eq) := rfl
  rw [compareFloats, heq]
  simp only [hlt, unpacked_compare_swap x.toModel.unpack y.toModel.unpack]
  rcases x.toModel.unpack.compare y.toModel.unpack with _ | _ | _ | _ <;> rfl

/-- Turning two floats around turns their order around. -/
lemma Value.compareFloats_swap (x y : Float) :
    compareFloats y x = (compareFloats x y).map Ordering.swap := by
  rw [compareFloats_eq, compareFloats_eq, unpacked_compare_swap]

/-- Finite floats compare as the numbers that they stand for. -/
theorem Value.compareFloats_of_rational? {m n : ℚ} (hx : Number.rational? x = some m)
    (hy : Number.rational? y = some n) : compareFloats x y = some (compare m n) := by
  obtain ⟨a, ha, rfl⟩ := Option.map_eq_some_iff.mp hx
  obtain ⟨b, hb, rfl⟩ := Option.map_eq_some_iff.mp hy
  rw [compareFloats_eq, Number.unpack_compare ha hb]

end Floats

end TableQuery
