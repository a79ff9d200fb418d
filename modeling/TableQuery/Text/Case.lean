import TableQuery.Text.CaseData

/-!
# Letter case

Full case conversion of text.  One character may become several (`ß` becomes `SS`), and the lower
case of a capital sigma depends on its place: at the end of a word it is `ς`, elsewhere `σ`.
-/

namespace TableQuery.Text

/-- Whether a shift applies to a code point. -/
def Shift.covers (s : Shift) (n : Nat) : Bool :=
  s.first ≤ n && n ≤ s.last && (n - s.first) % s.stride == 0

/-- The other case of a character outside ASCII. -/
def CaseMap.apply (m : CaseMap) (c : Char) : List Char :=
  match m.expansions.find? (fun e => e.1 == c) with
  | some (_, cs) => cs
  | none =>
    match m.shifts.find? (fun s => s.covers c.toNat) with
    | some s => [Char.ofNat (c.toNat + s.offset).toNat]
    | none => [c]

/-- The lower case form of one character, wherever it stands. -/
def lowerChar (c : Char) : List Char :=
  if c.toNat < 0x80 then [c.toLower] else lowerMap.apply c

/-- The upper case form of one character. -/
def upperChar (c : Char) : List Char :=
  if c.toNat < 0x80 then [c.toUpper] else upperMap.apply c

/-- Whether the next letter, past the characters that case ignores, is a cased one. -/
def meetsCased (cs : List Char) : Bool :=
  match cs.dropWhile caseIgnorable.contains with
  | [] => false
  | c :: _ => cased.contains c

/-- The lower case form of a text, given the characters before it, nearest first. -/
def lowerAfter (before : List Char) : List Char → List Char
  | [] => []
  | c :: rest =>
    let lowered :=
      if c = 'Σ' then [if meetsCased before && !meetsCased rest then 'ς' else 'σ'] else lowerChar c
    lowered ++ lowerAfter (c :: before) rest

/-- A text in lower case. -/
def toLower (s : String) : String := String.ofList (lowerAfter [] s.toList)

/-- A text in upper case. -/
def toUpper (s : String) : String := String.ofList (s.toList.flatMap upperChar)

/-- A text with the ASCII capitals, and nothing else, in lower case. -/
def toAsciiLower (s : String) : String := String.ofList (s.toList.map Char.toLower)

end TableQuery.Text
