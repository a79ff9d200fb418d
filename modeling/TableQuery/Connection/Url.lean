import TableQuery.Connection.Host

/-!
# Connection URLs

A URL is read as far as is needed to know its scheme and to tell whether a connection could be made
from it: control characters and spaces around it and tabs and line breaks inside it do not count,
the scheme runs up to the first colon, and after two slashes stands an authority with optional
credentials, a host and an optional number after a colon.  The schemes of the web demand a host;
others leave it to the application.  A file may have a host but no more.
-/

namespace TableQuery.Url

/-- How the part after the scheme is read. -/
inductive SchemeKind where
  | file
  | web
  | other
  deriving DecidableEq

/-- The way a scheme has its URLs read. -/
def SchemeKind.of (scheme : String) : SchemeKind :=
  if scheme = "file" then .file
  else if scheme ∈ ["http", "https", "ws", "wss", "ftp"] then .web
  else .other

/-- The characters that count: none of the control characters and spaces at the ends, and no tab or
line break. -/
def significant (cs : List Char) : List Char :=
  let edge (c : Char) : Bool := c.toNat ≤ 0x20
  let inner := ((cs.dropWhile edge).reverse.dropWhile edge).reverse
  inner.filter fun c => c != '\t' && c != '\n' && c != '\r'

/-- Whether a character may stand in a scheme after its first letter. -/
def isSchemeChar (c : Char) : Bool := c.isAlphanum || c == '+' || c == '-' || c == '.'

/-- The scheme in lower case, and what follows its colon. -/
def splitScheme? (cs : List Char) : Option (String × List Char) :=
  match cs with
  | [] => none
  | c :: _ =>
    if c.isAlpha then
      match cs.dropWhile isSchemeChar with
      | ':' :: rest => some (String.ofList ((cs.takeWhile isSchemeChar).map Char.toLower), rest)
      | _ => none
    else none

/-- An authority: the credentials before its last `@`, if it has one, the host, and the
digits after the colon behind the host. -/
structure Authority where
  credentials : Option (List Char)
  host : List Char
  digits : Option (List Char)

/-- Cuts the host off at a colon that stands outside brackets. -/
def splitHost (bracketed : Bool) : List Char → List Char × Option (List Char)
  | [] => ([], none)
  | c :: cs =>
    if c = ':' && !bracketed then ([], some cs)
    else
      let (host, rest) :=
        splitHost (if c = '[' then true else if c = ']' then false else bracketed) cs
      (c :: host, rest)

/-- The parts of an authority. -/
def Authority.of (cs : List Char) : Authority :=
  let location := (cs.reverse.takeWhile (· != '@')).reverse
  let (host, digits) := splitHost false location
  { credentials := if '@' ∈ cs then some (cs.take (cs.length - location.length - 1)) else none
    host
    digits }

/-- Whether credentials name a user or a password. -/
def namesAnyone (credentials : Option (List Char)) : Bool :=
  match credentials with
  | none | some [] | some [':'] => false
  | some _ => true

/-- Checks the number after the host: digits up to a backslash, with a value below 65536. -/
def checkPort (cs : List Char) : Except Fault Unit :=
  let digits := cs.takeWhile (· != '\\')
  if digits.all Char.isDigit ∧ Nat.ofDigitChars 10 digits 0 < 65536 then .ok ()
  else .error .invalidPort

/-- Whether a character ends the authority of a URL. -/
def endsAuthority (kind : SchemeKind) (c : Char) : Bool :=
  c == '/' || c == '?' || c == '#' || (kind != .other && c == '\\')

/-- Checks what follows the two slashes.  A host may be missing only outside the web, and then
neither credentials nor a number may be given. -/
def checkAuthority (kind : SchemeKind) (cs : List Char) : Except Fault Unit := do
  let rest := cs.dropWhile fun c => !endsAuthority kind c
  let a := Authority.of (cs.takeWhile fun c => !endsAuthority kind c)
  let hostNeeded :=
    kind == .web || a.digits.isSome || namesAnyone a.credentials ||
      (a.credentials == some [] && rest != [])
  if a.host = [] ∧ hostNeeded then throw .emptyHost
  checkHost (kind == .web) a.host
  match a.digits with
  | none => return ()
  | some digits => checkPort digits

/-- Whether a text is the letter of a drive, which is a part of a path. -/
def isDrive : List Char → Bool
  | [letter, mark] => letter.isAlpha && (mark == ':' || mark == '|')
  | _ => false

/-- Checks the host of a file. -/
def checkFileHost (cs : List Char) : Except Fault Unit :=
  let host := cs.takeWhile fun c => !endsAuthority .file c
  if host = [] ∨ isDrive host then .ok () else checkHost true host

/-- Whether a character separates the parts of a path on the web and of a file. -/
def isSlash (c : Char) : Bool := c == '/' || c == '\\'

/-- Checks what follows the scheme. -/
def checkRest (kind : SchemeKind) (cs : List Char) : Except Fault Unit :=
  match kind, cs with
  | .web, _ => checkAuthority kind (cs.dropWhile isSlash)
  | .file, a :: b :: rest => if isSlash a && isSlash b then checkFileHost rest else .ok ()
  | .other, '/' :: '/' :: rest => checkAuthority kind rest
  | _, _ => .ok ()

/-- The scheme of a URL. -/
def scheme (url : String) : Except Fault String :=
  match splitScheme? (significant url.toList) with
  | none => .error .relativeWithoutBase
  | some (scheme, rest) => (checkRest (.of scheme) rest).map fun _ => scheme

end TableQuery.Url
