import TableQuery.Text.Hex

/-!
# Globally unique identifiers

A 128-bit identifier, held as its hexadecimal digits.  It is written as five groups of lower case
digits joined by hyphens.  It is read from that form in either letter case, plain, in braces or
after `urn:uuid:`, or from its digits alone; a text in any other form is refused with the first
thing that is wrong with it.
-/

namespace TableQuery

/-- A 128-bit identifier as its 32 hexadecimal digits, the most significant first. -/
structure Guid where
  digits : List (Fin 16)
  length_digits : digits.length = 32
  deriving DecidableEq

namespace Guid

/-- The lengths of the groups of digits. -/
def groupLengths : List Nat := [8, 4, 4, 4, 12]

/-- What is wrong with a text that should be an identifier. -/
inductive Fault where
  | length (found : Nat)
  | character (found : Char) (index : Nat)
  | groupCount (found : Nat)
  | groupLength (group expected found : Nat)
  deriving DecidableEq

/-- The wording of a fault. -/
def Fault.message : Fault → String
  | .length found => s!"invalid length: found {found}"
  | .character found index => s!"invalid character: found `{found}` at {index}"
  | .groupCount found => s!"invalid group count: expected 5, found {found}"
  | .groupLength group expected found =>
    s!"invalid group length in group {group}: expected {expected}, found {found}"

/-- A list cut into stretches of given lengths. -/
def chunks {α : Type} : List Nat → List α → List (List α)
  | [], _ => []
  | n :: ns, xs => xs.take n :: chunks ns (xs.drop n)

/-- The text of an identifier. -/
def text (g : Guid) : List Char :=
  ['-'].intercalate (chunks groupLengths (g.digits.map Text.hexChar))

/-- The groups of characters between the hyphens. -/
def groups (cs : List Char) : List (List Char) := cs.splitOn '-'

/-- The identifier with the given digits. -/
def ofDigits? (cs : List Char) : Option Guid := do
  let digits ← cs.mapM Text.hexValue?
  if h : digits.length = 32 then some ⟨digits, h⟩ else none

/-- Reads groups of digits joined by hyphens. -/
def ofGroups? (cs : List Char) : Option Guid :=
  if (groups cs).map List.length = groupLengths then ofDigits? (groups cs).flatten else none

/-- A text without the braces or the scheme around it, and the number of characters taken off its
front. -/
def unwrap (cs : List Char) : List Char × Nat :=
  let scheme := "urn:uuid:".toList
  match cs with
  | '\x7b' :: rest =>
    if rest.getLast? = some '\x7d' then (rest.dropLast, 1) else (cs, 0)
  | _ =>
    if (cs.take scheme.length).map Char.toLower = scheme then (cs.drop scheme.length, scheme.length)
    else (cs, 0)

/-- The first character that is neither a hexadecimal digit nor a hyphen, and its place. -/
def strayCharacter? (index : Nat) : List Char → Option (Char × Nat)
  | [] => none
  | c :: cs =>
    if c = '-' || (Text.hexValue? c).isSome then strayCharacter? (index + 1) cs else some (c, index)

/-- The first group whose length is wrong, given the lengths expected and found. -/
def wrongGroup (index : Nat) : List Nat → List Nat → Fault
  | expected :: es, found :: fs =>
    if found = expected then wrongGroup (index + 1) es fs else .groupLength index expected found
  | _, _ => .groupCount index

/-- The lengths of the groups before the last hyphen, and the size of the text behind the place
where the last group should begin. -/
def foundLengths (size : Nat) (body : List Char) : List Nat :=
  ((groups body).dropLast.map List.length) ++ [size - 24]

/-- What is wrong with the body of a text of the given size, from which `offset` characters were
taken off.  A text that may be plain digits needs no hyphens. -/
def bodyFault (size offset : Nat) (plain : Bool) (body : List Char) : Fault :=
  match strayCharacter? offset body with
  | some (c, index) => .character c index
  | none =>
    if plain && !body.contains '-' then .length size
    else if (groups body).length ≠ 5 then .groupCount (groups body).length
    else wrongGroup 0 groupLengths (foundLengths size body)

/-- The number of bytes that characters take. -/
def byteSize (cs : List Char) : Nat := (String.ofList cs).utf8ByteSize

/-- What is wrong with a text that has no form an identifier is read from.  The size alone settles
the form of a text of 32 or 36 bytes, and of one whose wrapping leaves 36: then only what is inside
the wrapping is looked at. -/
def fault (cs : List Char) : Fault :=
  let size := byteSize cs
  let (body, offset) := unwrap cs
  if size = 0 ∨ 45 < size then .length size
  else if size = 32 then bodyFault 32 0 true cs
  else if size = 36 then bodyFault 36 0 false cs
  else if offset ≠ 0 ∧ byteSize body = 36 then bodyFault 36 0 false body
  else bodyFault size offset (offset == 0) body

/-- Reads an identifier. -/
def read (cs : List Char) : Except Fault Guid :=
  match ofDigits? cs <|> ofGroups? (unwrap cs).1 with
  | some g => .ok g
  | none => .error (fault cs)

end Guid

end TableQuery
