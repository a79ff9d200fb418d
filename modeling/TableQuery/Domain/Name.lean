import TableQuery.Domain.Label
import TableQuery.Text.Direction
import TableQuery.Text.Hex

/-!
# Domain names

A domain name is a sequence of labels.  It is read from any way of writing it: in either letter
case, with characters that stand for others, with its characters escaped as bytes, and with labels
in Punycode.  Where a label has letters that are written from right to left, every label has to read
one way.
-/

namespace TableQuery.Domain

/-- The bytes of a text in which a percent sign and two digits stand for a byte. -/
def unescapedBytes : List Char → List UInt8
  | [] => []
  | '%' :: a :: b :: cs =>
    match Text.hexValue? a, Text.hexValue? b with
    | some high, some low => UInt8.ofNat (16 * high.val + low.val) :: unescapedBytes cs
    | _, _ => 0x25 :: unescapedBytes (a :: b :: cs)
  | c :: cs => String.utf8EncodeChar c ++ unescapedBytes cs

/-- A text without its escapes, if their bytes are text. -/
def unescape? (cs : List Char) : Option (List Char) :=
  (String.fromUTF8? ⟨(unescapedBytes cs).toArray⟩).map String.toList

/-- The labels of a domain name. -/
def read? (cs : List Char) : Option (List (List Char)) := do
  let meanings ← (← unescape? cs).mapM meaning?
  let labels ← ((Text.composed meanings.flatten).splitOn '.').mapM readLabel?
  let directions := labels.map fun label => label.map Text.direction
  if directions.any (fun ds => ds.any Text.Direction.isLeftward) &&
      !directions.all Text.Direction.consistent then
    none
  else some labels

end TableQuery.Domain
