import TableQuery.Text.CombiningClass
import TableQuery.Text.CompositionData

/-!
# Composed text

A letter and its marks may be written apart or as one character, and marks that do not touch each
other in any order.  The composed form of a text is the one way of writing it that uses the
characters for several as far as there are any, and orders the marks that are left by their classes.
A Korean syllable is composed of its letters by a rule, everything else by a table.
-/

namespace TableQuery.Text

/-- The syllable of a Korean consonant and a vowel, or of a syllable without a final consonant and
one. -/
def syllable? (a b : Nat) : Option Nat :=
  if 0x1100 ≤ a ∧ a < 0x1113 ∧ 0x1161 ≤ b ∧ b < 0x1176 then
    some (0xAC00 + ((a - 0x1100) * 21 + (b - 0x1161)) * 28)
  else if 0xAC00 ≤ a ∧ a < 0xD7A4 ∧ (a - 0xAC00) % 28 = 0 ∧ 0x11A8 ≤ b ∧ b < 0x11C3 then
    some (a + (b - 0x11A7))
  else none

/-- The two parts of a Korean syllable. -/
def syllableParts? (n : Nat) : Option (Nat × Nat) :=
  if 0xAC00 ≤ n ∧ n < 0xD7A4 then
    let final := (n - 0xAC00) % 28
    if final ≠ 0 then some (n - final, 0x11A7 + final)
    else some (0x1100 + (n - 0xAC00) / 588, 0x1161 + (n - 0xAC00) % 588 / 28)
  else none

/-- What stands in the second list where the first has a given character. -/
def counterpart? (c : Char) : List Char → List Char → Option Char
  | a :: as, b :: bs => if a = c then some b else counterpart? c as bs
  | _, _ => none

/-- The one character for two. -/
def compose? (a b : Char) : Option Char :=
  match syllable? a.toNat b.toNat with
  | some n => some (Char.ofNat n)
  | none =>
    compositionRows.findSome? fun row =>
      if row.second = b.toNat then counterpart? a row.firsts.toList row.wholes.toList else none

/-- The two characters that one stands for. -/
def parts? (c : Char) : Option (Char × Char) :=
  match syllableParts? c.toNat with
  | some (a, b) => some (Char.ofNat a, Char.ofNat b)
  | none =>
    compositionRows.findSome? fun row =>
      (counterpart? c row.wholes.toList row.firsts.toList).map fun a => (a, Char.ofNat row.second)

/-- The characters that one stands for, taken apart `depth` times at most. -/
def decompose : Nat → Char → List Char
  | 0, c => [c]
  | depth + 1, c =>
    match parts? c with
    | some (a, b) => decompose depth a ++ [b]
    | none => [c]

/-- Puts a character before characters in order.  A mark goes behind the marks of lower classes. -/
def place (c : Char) : List Char → List Char
  | [] => [c]
  | d :: ds =>
    if 0 < combiningClass d ∧ combiningClass d < combiningClass c then d :: place c ds
    else c :: d :: ds

/-- The composed form of ordered characters, behind a character and the marks `kept` after it, the
last first.  A mark reaches the character past marks of lower classes only. -/
def composeFrom (first : Char) (kept : List Char) : List Char → List Char
  | [] => first :: kept.reverse
  | c :: cs =>
    let reaches := kept.all fun k => combiningClass k < combiningClass c
    match if reaches then compose? first c else none with
    | some whole => composeFrom whole kept cs
    | none =>
      if combiningClass c = 0 then first :: kept.reverse ++ composeFrom c [] cs
      else composeFrom first (c :: kept) cs

/-- No character stands for one that is composed of more than this many. -/
def compositionDepth : Nat := 4

/-- The composed form of a text. -/
def composed (cs : List Char) : List Char :=
  match (cs.flatMap (decompose compositionDepth)).foldr place [] with
  | [] => []
  | c :: cs => composeFrom c [] cs

end TableQuery.Text
