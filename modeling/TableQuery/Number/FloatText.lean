import TableQuery.Number.Binary

/-!
# Reading floats

A float is written as an optional sign, digits with an optional point among them, and an optional
exponent, or as one of the words for infinity and not-a-number in any letter case.  The value is the
float nearest to the decimal number.
-/

namespace TableQuery.Number

/-- An unsigned decimal number as written: `digits · 10^exponent`. -/
structure Decimal where
  digits : List Char
  exponent : Int

/-- Reads the exponent part: nothing, or `e`, an optional sign and digits. -/
def readExponent : List Char → Option Int
  | [] => some 0
  | c :: cs =>
    if c = 'e' || c = 'E' then
      match cs with
      | '-' :: ds => (readNat ds).map (fun n => -(n : Int))
      | '+' :: ds => (readNat ds).map Int.ofNat
      | ds => (readNat ds).map Int.ofNat
    else none

/-- Reads an unsigned decimal number. -/
def readDecimal (cs : List Char) : Option Decimal := do
  let whole := cs.takeWhile Char.isDigit
  let rest := cs.dropWhile Char.isDigit
  let (fraction, rest) := match rest with
    | '.' :: r => (r.takeWhile Char.isDigit, r.dropWhile Char.isDigit)
    | r => ([], r)
  let exponent ← readExponent rest
  if whole ++ fraction = [] then none
  else some ⟨whole ++ fraction, exponent - fraction.length⟩

/-- The bit pattern of the float nearest to a decimal number.  Numbers far out of range are decided
by their order of magnitude alone. -/
def Decimal.pattern (d : Decimal) : Nat :=
  let digits := d.digits.dropWhile (· == '0')
  let magnitude : Int := digits.length + d.exponent
  let n := Nat.ofDigitChars 10 digits 0
  if digits = [] || magnitude < -400 then 0
  else if 400 < magnitude then double.infinity
  else if 0 ≤ d.exponent then double.nearest (n * Nat.pow 10 d.exponent.toNat) 1
  else double.nearest n (Nat.pow 10 (-d.exponent).toNat)

/-- Reads a float without its sign. -/
def readMagnitude (negative : Bool) (cs : List Char) : Option Float :=
  let word := String.ofList (cs.map Char.toLower)
  if word = "inf" ∨ word = "infinity" then some (ofPattern negative double.infinity)
  else if word = "nan" then some (0.0 / 0.0)
  else (readDecimal cs).map fun d => ofPattern negative d.pattern

/-- Reads a float. -/
def readFloat : List Char → Option Float
  | '-' :: cs => readMagnitude true cs
  | '+' :: cs => readMagnitude false cs
  | cs => readMagnitude false cs

end TableQuery.Number
