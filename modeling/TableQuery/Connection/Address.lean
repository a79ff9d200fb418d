import TableQuery.Text.Hex

/-!
# Network addresses

The addresses that may stand for a host: four numbers with dots between them, or up to eight numbers
of sixteen bits with colons between them.
-/

namespace TableQuery.Url

/-- The number written by characters in a base, where no digits at all are zero. -/
def readNumeral? (base : Nat) (cs : List Char) : Option Nat := do
  let digits ← cs.mapM Text.hexValue?
  if digits.all (·.val < base) then some (digits.foldl (fun n d => base * n + d.val) 0) else none

/-- A number of a dotted address.  A leading zero makes it octal and `0x` hexadecimal. -/
def addressNumber? : List Char → Option Nat
  | [] => none
  | ['0'] => some 0
  | '0' :: 'x' :: cs | '0' :: 'X' :: cs => readNumeral? 16 cs
  | '0' :: cs => readNumeral? 8 cs
  | cs => readNumeral? 10 cs

/-- Whether labels are meant as a dotted address: the last one, past an empty one, is a number. -/
def looksNumeric (labels : List (List Char)) : Bool :=
  match labels.reverse with
  | [] :: last :: _ | last :: _ =>
    (last != [] && last.all Char.isDigit) || (addressNumber? last).isSome
  | [] => false

/-- Whether labels are a dotted address: one to four numbers, of which the last fills what the
others leave of the 32 bits. -/
def isDottedAddress (labels : List (List Char)) : Bool :=
  let written := if labels.getLast? = some [] then labels.dropLast else labels
  match written.mapM addressNumber? with
  | none => false
  | some numbers =>
    match numbers.reverse with
    | [] => false
    | last :: others =>
      others.length < 4 && others.all (· < 256) && last < Nat.pow 256 (4 - others.length)

/-- Whether characters are a byte in decimal digits without a leading zero. -/
def isByte (cs : List Char) : Bool :=
  cs != [] && cs.all Char.isDigit && (cs == ['0'] || cs.head? != some '0') &&
    Nat.ofDigitChars 10 cs 0 < 256

/-- The number of sixteen-bit pieces in parts written between colons.  The last part may be a dotted
address, which makes two pieces. -/
def pieceCount? : List (List Char) → Option Nat
  | [] => some 0
  | [part] =>
    let bytes := part.splitOn '.'
    if part.length ≤ 4 && part != [] && part.all (fun c => (Text.hexValue? c).isSome) then some 1
    else if bytes.length = 4 && bytes.all isByte then some 2
    else none
  | part :: parts =>
    if part.length ≤ 4 && part != [] && part.all (fun c => (Text.hexValue? c).isSome) then
      (pieceCount? parts).map (· + 1)
    else none

/-- The parts of a text between colons; an empty text has none. -/
def colonParts (cs : List Char) : List (List Char) := if cs = [] then [] else cs.splitOn ':'

/-- What stands before and after the first two colons in a row. -/
def splitGap? : List Char → Option (List Char × List Char)
  | ':' :: ':' :: cs => some ([], cs)
  | c :: cs => (splitGap? cs).map fun (before, after) => (c :: before, after)
  | [] => none

/-- Whether a text is an address of eight sixteen-bit pieces.  Two colons in a row stand once for
pieces that are zero. -/
def isColonAddress (cs : List Char) : Bool :=
  match splitGap? cs with
  | none => pieceCount? (colonParts cs) == some 8
  | some (before, after) =>
    match pieceCount? (colonParts before ++ [['0']]), pieceCount? (colonParts after) with
    | some m, some n => m + n ≤ 8
    | _, _ => false

end TableQuery.Url
