import TableQuery.Connection.Address
import TableQuery.Connection.Fault
import TableQuery.Domain.Name

/-!
# Hosts of URLs

A host in brackets is an address of sixteen-bit numbers.  Any other is a domain name or a dotted
address in the schemes whose hosts have a meaning, and any text without delimiters in the other
schemes.
-/

namespace TableQuery.Url

/-- Whether a character delimits hosts and so stands in none. -/
def isDelimiter (c : Char) : Bool := c == '\x00' || "\t\n\r #/:<>?@[\\]^|".toList.contains c

/-- Checks the labels of a host. -/
def checkLabels (labels : List (List Char)) : Except Fault Unit :=
  if labels = [[]] then .error .emptyHost
  else if looksNumeric labels && !isDottedAddress labels then .error .dottedAddress
  else .ok ()

/-- Checks a host; `named` tells that it has a meaning in its scheme. -/
def checkHost (named : Bool) (cs : List Char) : Except Fault Unit :=
  match cs with
  | '[' :: inner =>
    if inner.getLast? = some ']' ∧ isColonAddress inner.dropLast then .ok ()
    else .error .colonAddress
  | _ =>
    if named then
      match Domain.read? cs with
      | some labels => checkLabels labels
      | none => .error .domainName
    else if cs.any isDelimiter then .error .domainCharacter
    else .ok ()

end TableQuery.Url
