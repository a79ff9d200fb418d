/-!
# Decimal integers

The decimal text of integers, and the reading of 64-bit integers: an optional sign and at least one
ASCII digit, with the value in range.
-/

namespace TableQuery.Number

/-- The 64-bit integer with a given value, if it is in range. -/
def int64? (n : Int) : Option Int64 :=
  if Int64.minValue.toInt ≤ n ∧ n ≤ Int64.maxValue.toInt then some (Int64.ofInt n) else none

/-- The decimal digits of a natural number. -/
def natText (n : Nat) : List Char := Nat.toDigits 10 n

/-- The decimal text of an integer. -/
def intText (n : Int) : List Char :=
  if n < 0 then '-' :: natText n.natAbs else natText n.natAbs

/-- Reads one or more ASCII digits. -/
def readNat (cs : List Char) : Option Nat :=
  if cs ≠ [] ∧ cs.all Char.isDigit then some (Nat.ofDigitChars 10 cs 0) else none

/-- Reads a 64-bit integer. -/
def readInt64 : List Char → Option Int64
  | '-' :: cs => do int64? (-(← readNat cs))
  | '+' :: cs => do int64? (← readNat cs)
  | cs => do int64? (← readNat cs)

end TableQuery.Number
