import TableQuery.Value

/-!
# Literals of narrow types

Literals of types that are narrower than the values they become.  An integer keeps its last bits, a
float is rounded to single precision, and a variant of an enumeration is stored as its discriminant.
-/

namespace TableQuery.Value

/-- An integer cut down to its last bits, and read with or without a sign. -/
def narrow (bits : Nat) (signed : Bool) (n : Int64) : Value :=
  .int <| Int64.ofInt <|
    if signed then n.toInt.bmod (Nat.pow 2 bits) else n.toInt % (Nat.pow 2 bits : Nat)

/-- A float of single precision. -/
def single (x : Float) : Value := .float (Number.toSingle x)

/-- The discriminant of a variant, by its position among the variants. -/
def variant? (discriminants : List Int64) (position : Nat) : Option Value :=
  discriminants[position]?.map .enum

end TableQuery.Value
