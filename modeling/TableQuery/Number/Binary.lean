import TableQuery.Number.Integer

/-!
# Binary floating point

A finite binary number is `± mantissa · 2^exponent`.  A format says how many bits a mantissa has and
which exponents occur; numbers are rounded to a format with ties to the even mantissa, in exact
integer arithmetic.  Conversions between integers and 64-bit floats, remainders, and the rounding to
single precision are all stated through these two steps: take a float apart, round the exact result.
-/

namespace TableQuery.Number

/-- A finite binary number, `± mantissa · 2^exponent`. -/
structure Binary where
  negative : Bool
  mantissa : Nat
  exponent : Int
  deriving DecidableEq

/-- A binary interchange format: the bits of the stored fraction, the least exponent, and the
exponent field that stands for infinity. -/
structure Format where
  fractionBits : Nat
  leastExponent : Int
  infinityField : Nat

/-- The 64-bit format. -/
def double : Format := ⟨52, -1074, 2047⟩

/-- The 32-bit format. -/
def single : Format := ⟨23, -149, 255⟩

/-- The bit pattern of infinity, without its sign. -/
def Format.infinity (f : Format) : Nat := f.infinityField * Nat.pow 2 f.fractionBits

/-- Two to an integer power, as a fraction. -/
def powerOfTwo (e : Int) : Nat × Nat :=
  if 0 ≤ e then (Nat.pow 2 e.toNat, 1) else (1, Nat.pow 2 (-e).toNat)

/-- The natural number nearest to a quotient; a tie goes to the even one. -/
def roundDiv (num den : Nat) : Nat :=
  let q := num / den
  let r := 2 * (num % den)
  if r > den || (r == den && q % 2 == 1) then q + 1 else q

/-- The bit pattern, without sign, of the number of the format nearest to `num / den`.  Patterns
count the numbers of the format upwards from zero, so a carry out of the mantissa needs no care. -/
def Format.nearest (f : Format) (num den : Nat) : Nat :=
  if num = 0 then 0
  else
    let precision : Int := f.fractionBits + 1
    let guess : Int := Nat.log2 num - Nat.log2 den - precision
    let scaled (e : Int) : Nat × Nat := let (a, b) := powerOfTwo e; (num * b, den * a)
    let (n, d) := scaled guess
    let e := if Nat.pow 2 (f.fractionBits + 1) * d ≤ n then guess + 1 else guess
    let e := max e f.leastExponent
    let (n, d) := scaled e
    let pattern := (e - f.leastExponent).toNat * Nat.pow 2 f.fractionBits + roundDiv n d
    min pattern f.infinity

/-- The finite number a bit pattern without sign stands for. -/
def Format.parts? (f : Format) (pattern : Nat) : Option (Nat × Int) :=
  let field := pattern / Nat.pow 2 f.fractionBits
  let fraction := pattern % Nat.pow 2 f.fractionBits
  if field = 0 then some (fraction, f.leastExponent)
  else if field < f.infinityField then
    some (fraction + Nat.pow 2 f.fractionBits, f.leastExponent + (field - 1 : Nat))
  else none

/-- The float with a sign and a bit pattern without sign. -/
def ofPattern (negative : Bool) (pattern : Nat) : Float :=
  Float.ofBits (UInt64.ofNat (pattern + if negative then Nat.pow 2 63 else 0))

/-- Whether the sign bit of a float is set. -/
def signBit (x : Float) : Bool := Nat.pow 2 63 ≤ x.toBits.toNat

/-- The finite number a float stands for; infinities and not-a-number have none. -/
def finite? (x : Float) : Option Binary := do
  let (mantissa, exponent) ← double.parts? (x.toBits.toNat % Nat.pow 2 63)
  return ⟨signBit x, mantissa, exponent⟩

/-- The float nearest to `± num / den`. -/
def nearestFloat (negative : Bool) (num den : Nat) : Float :=
  ofPattern negative (double.nearest num den)

/-- The float nearest to a finite binary number. -/
def Binary.toFloat (b : Binary) : Float :=
  let (num, den) := powerOfTwo b.exponent
  nearestFloat b.negative (b.mantissa * num) den

/-- The float nearest to an integer. -/
def floatOfInt (n : Int) : Float := nearestFloat (n < 0) n.natAbs 1

/-- A finite number without its fraction. -/
def Binary.truncate (b : Binary) : Int :=
  let (num, den) := powerOfTwo b.exponent
  let n : Int := (b.mantissa * num / den : Nat)
  if b.negative then -n else n

/-- The 64-bit integer nearest to an integer: out of range, the end of the range. -/
def saturate (n : Int) : Int64 :=
  Int64.ofInt (max Int64.minValue.toInt (min n Int64.maxValue.toInt))

/-- The remainder of a division whose quotient is rounded toward zero.  It has the sign of the
dividend, and it is exact. -/
def floatRem (x y : Float) : Float :=
  match finite? x, finite? y with
  | some a, some b =>
    if b.mantissa = 0 then 0.0 / 0.0
    else
      let e := min a.exponent b.exponent
      let m := a.mantissa * Nat.pow 2 (a.exponent - e).toNat
      let n := b.mantissa * Nat.pow 2 (b.exponent - e).toNat
      Binary.toFloat ⟨a.negative, m % n, e⟩
  | some _, none => if y.isNaN then y else x
  | none, _ => 0.0 / 0.0

/-- A float rounded to single precision. -/
def toSingle (x : Float) : Float :=
  match finite? x with
  | none => x
  | some b =>
    let (num, den) := powerOfTwo b.exponent
    match single.parts? (single.nearest (b.mantissa * num) den) with
    | some (mantissa, exponent) => Binary.toFloat ⟨b.negative, mantissa, exponent⟩
    | none => ofPattern b.negative double.infinity

end TableQuery.Number
