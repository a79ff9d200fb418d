/-!
# Punycode

A label with characters beyond ASCII is written in ASCII as its ASCII characters and, behind the
last hyphen, numbers that say which other characters are to be inserted and where.  A number is
written with its lowest digit first; a digit below a threshold ends it, and the thresholds adapt to
the numbers read so far.
-/

namespace TableQuery.Domain

/-- The value of a digit: the letters in either case, then the decimal digits. -/
def digitValue? (c : Char) : Option Nat :=
  let n := c.toNat
  if 0x61 ≤ n ∧ n ≤ 0x7A then some (n - 0x61)
  else if 0x41 ≤ n ∧ n ≤ 0x5A then some (n - 0x41)
  else if 0x30 ≤ n ∧ n ≤ 0x39 then some (n - 0x30 + 26)
  else none

/-- The digit at which the `k`-th place, counted in steps of 36, begins to go on. -/
def threshold (k bias : Nat) : Nat := min 26 (max 1 (k - bias))

/-- The bias after a number, given how many times 36 it already holds. -/
def biasOf (delta k : Nat) : Nat :=
  if 455 < delta then biasOf (delta / 35) (k + 36) else k + 36 * delta / (delta + 38)
termination_by delta
decreasing_by exact Nat.div_lt_self (by omega) (by omega)

/-- The bias after a step of `delta`, with which the label has `count` characters. -/
def adapt (delta count : Nat) (first : Bool) : Nat :=
  let scaled := if first then delta / 700 else delta / 2
  biasOf (scaled + scaled / count) 0

/-- A number from its digits, and what follows it.  The digit at the current place weighs
`weight`. -/
def readDelta (bias k weight sum : Nat) : List Char → Option (Nat × List Char)
  | [] => none
  | c :: cs => do
    let d ← digitValue? c
    let t := threshold k bias
    if d < t then some (sum + d * weight, cs)
    else readDelta bias (k + 36) (weight * (36 - t)) (sum + d * weight) cs

/-- A state of reading: the label so far, the last character inserted, the place after it, and the
bias. -/
structure Insertion where
  label : List Char
  code : Nat
  place : Nat
  bias : Nat

/-- The insertion that a number asks for, if there is such a character. -/
def Insertion.step? (s : Insertion) (delta : Nat) : Option Insertion :=
  let count := s.label.length + 1
  let code := s.code + (s.place + delta) / count
  let place := (s.place + delta) % count
  if code.isValidChar then
    some {
      label := s.label.insertIdx place (Char.ofNat code)
      code
      place := place + 1
      bias := adapt delta count (s.place == 0) }
  else none

/-- The label after all insertions.  Each takes a digit at least, so their number is bounded by that
of the digits. -/
def insertAll (s : Insertion) : Nat → List Char → Option (List Char)
  | _, [] => some s.label
  | 0, _ :: _ => none
  | bound + 1, c :: cs => do
    let (delta, rest) ← readDelta s.bias 36 1 0 (c :: cs)
    insertAll (← s.step? delta) bound rest

/-- The label that a text in ASCII stands for. -/
def decode? (cs : List Char) : Option (List Char) :=
  let digits := (cs.reverse.takeWhile (· != '-')).reverse
  let basic := cs.take (cs.length - digits.length - 1)
  let written := if basic = [] then cs else digits
  insertAll ⟨basic, 0x80, 0, 72⟩ written.length written

end TableQuery.Domain
