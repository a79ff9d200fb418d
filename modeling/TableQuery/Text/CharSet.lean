/-!
# Sets of characters

A set of characters is given by the stretches of code points it is made of.  Where two cases of a
script take turns, a stretch holds every second code point only.
-/

namespace TableQuery.Text

/-- A set of code points: whole stretches, and stretches of which every second one is meant. -/
structure CharSet where
  spans : List (Nat × Nat)
  alternating : List (Nat × Nat)

/-- Whether a character is in the set. -/
def CharSet.contains (s : CharSet) (c : Char) : Bool :=
  s.spans.any (fun (a, b) => a ≤ c.toNat && c.toNat ≤ b) ||
    s.alternating.any (fun (a, b) => a ≤ c.toNat && c.toNat ≤ b && (c.toNat - a) % 2 == 0)

end TableQuery.Text
