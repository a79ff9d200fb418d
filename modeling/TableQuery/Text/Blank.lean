/-!
# White space

The characters with the Unicode property *White_Space*, and the trimming of texts.  Trimming is
stated on lists of characters; the functions on `String` are its images.
-/

namespace TableQuery.Text

/-- Whether a character is white space. -/
def isBlank (c : Char) : Bool :=
  let n := c.toNat
  (0x09 ≤ n && n ≤ 0x0D) || n == 0x20 || n == 0x85 || n == 0xA0 || n == 0x1680 ||
    (0x2000 ≤ n && n ≤ 0x200A) || n == 0x2028 || n == 0x2029 || n == 0x202F || n == 0x205F ||
    n == 0x3000

/-- The characters without the white space they begin with. -/
def dropBlanks (cs : List Char) : List Char := cs.dropWhile isBlank

/-- The characters without the white space they end with. -/
def dropBlanksEnd (cs : List Char) : List Char := (dropBlanks cs.reverse).reverse

/-- A text without the white space it begins with. -/
def trimStart (s : String) : String := String.ofList (dropBlanks s.toList)

/-- A text without the white space it ends with. -/
def trimEnd (s : String) : String := String.ofList (dropBlanksEnd s.toList)

/-- A text without the white space around it. -/
def trim (s : String) : String := String.ofList (dropBlanksEnd (dropBlanks s.toList))

end TableQuery.Text
