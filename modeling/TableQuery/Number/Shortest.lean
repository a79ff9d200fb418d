import TableQuery.Number.Binary

/-!
# Shortest decimal text of a float

The text of a float has the fewest digits that read back as the same float, the nearest of those if
there are several and the larger of two equally near ones.  It is positional throughout: it never
has an exponent, and a whole number has no decimal point.
-/

namespace TableQuery.Number

/-- A positive fraction. -/
structure Fraction where
  num : Nat
  den : Nat

/-- The stretch of numbers that round to a float: its value and the distances to the two ends, all
over one denominator, and whether the ends belong to it. -/
structure Rounding where
  value : Nat
  below : Nat
  above : Nat
  den : Nat
  closed : Bool

/-- The stretch of numbers that round to a positive float.  Below a power of two the next float is
only half as far away. -/
def Rounding.of (mantissa : Nat) (exponent : Int) : Rounding :=
  let (num, den) := powerOfTwo exponent
  let narrow := mantissa == Nat.pow 2 double.fractionBits
  { value := 4 * mantissa * num
    below := if narrow then num else 2 * num
    above := 2 * num
    den := 4 * den
    closed := mantissa % 2 == 0 }

/-- Whether a fraction rounds to the float. -/
def Rounding.admits (r : Rounding) (x : Fraction) : Bool :=
  let n := x.num * r.den
  let low := (r.value - r.below) * x.den
  let high := (r.value + r.above) * x.den
  if r.closed then low ≤ n && n ≤ high else low < n && n < high

/-- Ten to an integer power, as a fraction. -/
def powerOfTen (e : Int) : Fraction :=
  if 0 ≤ e then ⟨Nat.pow 10 e.toNat, 1⟩ else ⟨1, Nat.pow 10 (-e).toNat⟩

/-- The point of the grid of multiples of `10^e` that is nearest to the float among those that round
to it. -/
def Rounding.onGrid? (r : Rounding) (e : Int) : Option Nat :=
  let unit := powerOfTen e
  let scale := r.den * unit.num
  let low := r.value * unit.den / scale
  let admitted (k : Nat) : Bool := r.admits ⟨k * unit.num, unit.den⟩
  let remainder := r.value * unit.den % scale
  if remainder = 0 then some low
  else if admitted (low + 1) && (!admitted low || scale ≤ 2 * remainder) then some (low + 1)
  else if admitted low then some low
  else none

/-- The first of the grids, tried from the coarsest, that has a point, and that point. -/
def Rounding.shortest (r : Rounding) (e : Int) : Nat → Nat × Int
  | 0 => ((r.onGrid? e).getD 0, e)
  | steps + 1 =>
    match r.onGrid? e with
    | some 0 | none => r.shortest (e - 1) steps
    | some k => (k, e)

/-- The number of decimal digits before the point of a positive fraction, or minus the number of
zeros after it. -/
def decimalExponent (num den : Nat) : Int :=
  let estimate : Int := ((Nat.log2 num : Int) - Nat.log2 den - 1) * 30103 / 100000
  let rec climb (e : Int) : Nat → Int
    | 0 => e
    | steps + 1 =>
      let p := powerOfTen e
      if num * p.den < p.num * den then e else climb (e + 1) steps
  climb (estimate - 1) 5

/-- A decimal number `digits · 10^e` in positional notation. -/
def positional (digits : List Char) (e : Int) : List Char :=
  if 0 ≤ e then digits ++ List.replicate e.toNat '0'
  else
    let places := (-e).toNat
    if places < digits.length then
      digits.take (digits.length - places) ++ '.' :: digits.drop (digits.length - places)
    else
      '0' :: '.' :: (List.replicate (places - digits.length) '0' ++ digits)

/-- The digits of a number without the zeros at its end, and the exponent they stand at. -/
def withoutTrailingZeros (k : Nat) (e : Int) : List Char × Int :=
  let digits := natText k
  let zeros := (digits.reverse.takeWhile (· == '0')).length
  (digits.take (digits.length - zeros), e + zeros)

/-- The text of a finite number without its sign. -/
def magnitudeText (mantissa : Nat) (exponent : Int) : List Char :=
  if mantissa = 0 then ['0']
  else
    let r := Rounding.of mantissa exponent
    let (k, e) := r.shortest (decimalExponent r.value r.den) 20
    let (digits, e) := withoutTrailingZeros k e
    positional digits e

/-- The text of a float. -/
def floatText (x : Float) : List Char :=
  match finite? x with
  | some b => if b.negative then '-' :: magnitudeText b.mantissa b.exponent
      else magnitudeText b.mantissa b.exponent
  | none =>
    if x.isNaN then "NaN".toList else if signBit x then "-inf".toList else "inf".toList

end TableQuery.Number
