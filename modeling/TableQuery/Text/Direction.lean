import TableQuery.Text.DirectionData

/-!
# Writing directions

The direction in which a character is written, as far as it matters for a word that mixes
directions.
-/

namespace TableQuery.Text

/-- How a character takes part in the direction of a text. -/
inductive Direction where
  | leftToRight
  | rightToLeft
  | arabicNumber
  | europeanNumber
  | neutral
  | nonspacing
  deriving DecidableEq

/-- The direction of a character. -/
def direction (c : Char) : Direction :=
  if rightToLeft.contains c then .rightToLeft
  else if arabicNumber.contains c then .arabicNumber
  else if europeanNumber.contains c then .europeanNumber
  else if neutral.contains c then .neutral
  else if nonspacing.contains c then .nonspacing
  else .leftToRight

namespace Direction

/-- Whether a character of this direction makes a text one that is written from right to left. -/
def isLeftward (d : Direction) : Bool := d == rightToLeft || d == arabicNumber

/-- Whether a word reads the same way everywhere: its first character sets the direction, nothing in
it goes the other way, it ends in a letter or a digit, and numbers of two kinds do not meet. -/
def consistent : List Direction → Bool
  | [] => true
  | d :: ds =>
    let last := ((d :: ds).reverse.dropWhile (· == nonspacing)).head?
    match d with
    | rightToLeft =>
      ds.all (· != leftToRight) &&
        last ∈ [some rightToLeft, some europeanNumber, some arabicNumber] &&
        !(ds.contains europeanNumber && ds.contains arabicNumber)
    | leftToRight =>
      ds.all (fun d => !d.isLeftward) && last ∈ [some leftToRight, some europeanNumber]
    | _ => false

end Direction

end TableQuery.Text
