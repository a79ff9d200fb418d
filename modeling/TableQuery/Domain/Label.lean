import TableQuery.Domain.MappingData
import TableQuery.Domain.Punycode
import TableQuery.Text.CombiningClass
import TableQuery.Text.Case
import TableQuery.Text.Composition
import TableQuery.Text.Joining
import TableQuery.Text.Mark

/-!
# Labels of domain names

A label is a part of a domain name between two dots.  It is given by the characters it stands for;
in ASCII it may also be written behind `xn--` as Punycode, but then only in the one way in which it
is written.
-/

namespace TableQuery.Domain

/-- What a character stands for in a domain name, if it has a place there. -/
def meaning? (c : Char) : Option (List Char) :=
  if c.toNat < 0x80 then some [c.toLower]
  else if valid.contains c then some [c]
  else if ignored.contains c then some []
  else
    match shifted.find? (·.covers c.toNat) with
    | some s => some [Char.ofNat (c.toNat + s.offset).toNat]
    | none =>
      let within {α : Type} (row : List α) (first : Nat) : Option α :=
        if first ≤ c.toNat then row[c.toNat - first]? else none
      match replaced.findSome? fun (first, row) => within row.toList first with
      | some d => some [d]
      | none => expanded.findSome? fun (first, row) => (within row first).map String.toList

/-- The characters of ASCII that have a meaning of their own around a domain name, and so none in
it. -/
def isReserved (c : Char) : Bool :=
  c.toNat ≤ 0x20 || c.toNat == 0x7F || "%#/:<>?@[\\]^|".toList.contains c

/-- Whether the first letter that is reached joins on a side. -/
def joins (sides : Char → Bool) (cs : List Char) : Bool :=
  (cs.dropWhile Text.joinsThrough.contains).head?.any sides

/-- Whether an invisible joiner may stand between characters, those before it being given from the
nearest on.  It may follow a sign that drops a vowel, whose class is 9, and the one that keeps
letters apart may also stand between two that would join. -/
def joinerFits (joiner : Char) (before after : List Char) : Bool :=
  before.head?.any (fun c => Text.combiningClass c == 9) ||
    (joiner == '\u200c' &&
      joins (fun c => Text.joinsAfter.contains c || Text.joinsBoth.contains c) before &&
      joins (fun c => Text.joinsBefore.contains c || Text.joinsBoth.contains c) after)

/-- Whether every invisible joiner stands where it may. -/
def joinersFit (before : List Char) : List Char → Bool
  | [] => true
  | c :: cs =>
    ((c != '\u200c' && c != '\u200d') || joinerFits c before cs) && joinersFit (c :: before) cs

/-- Whether characters that have a place in a domain name make a label. -/
def isLabel (cs : List Char) : Bool :=
  cs.all (fun c => !isReserved c) && !cs.head?.any Text.mark.contains && joinersFit [] cs

/-- How a label begins that is written as Punycode. -/
def encodedMark : List Char := "xn--".toList

/-- Whether a decoded label is one that is written as Punycode. -/
def isEncoded (cs : List Char) : Bool :=
  cs.all (fun c => meaning? c == some [c]) && Text.composed cs == cs && !encodedMark.isPrefixOf cs

/-- The label that is written as given characters, which stand for themselves. -/
def readLabel? (cs : List Char) : Option (List Char) :=
  if encodedMark.isPrefixOf cs then do
    let written := cs.drop encodedMark.length
    if written = [] ∨ written.getLast? = some '-' ∨ written.any (fun c => 0x80 ≤ c.toNat) then none
    else
      let label ← decode? written
      if isEncoded label && isLabel label then some label else none
  else if isLabel cs then some cs
  else none

end TableQuery.Domain
