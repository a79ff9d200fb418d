import TableQuery.Text.Alphanumeric
import TableQuery.Text.Case

/-!
# Words of an identifier

An identifier is read as a sequence of words: it is cut at the characters that are neither letters
nor digits, between a lower case letter and the capital after it, and before the last capital of a
run that a lower case letter follows.  Digits stay with the word before them.
-/

namespace TableQuery.Text

/-- The case of the letter seen last in the current word. -/
inductive Stance where
  | fresh
  | lower
  | upper
  deriving DecidableEq

/-- The stance after a character. -/
def Stance.after (m : Stance) (c : Char) : Stance :=
  if lowercase.contains c then .lower else if uppercase.contains c then .upper else m

/-- The humps of a stretch of letters and digits; `word` holds the current word, last character
first. -/
def humpsFrom (m : Stance) (word : List Char) : List Char → List (List Char)
  | [] => []
  | [c] => [(c :: word).reverse]
  | c :: next :: rest =>
    if m.after c = .lower && uppercase.contains next then
      (c :: word).reverse :: humpsFrom .fresh [] (next :: rest)
    else if m = .upper && uppercase.contains c && lowercase.contains next then
      word.reverse :: humpsFrom .fresh [c] (next :: rest)
    else
      humpsFrom (m.after c) (c :: word) (next :: rest)

/-- The words of an identifier. -/
def words (cs : List Char) : List (List Char) :=
  (cs.splitOnP fun c => !alphanumeric.contains c).flatMap (humpsFrom .fresh [])

/-- A word in lower case; a capital sigma at its very end takes the final form. -/
def lowerWord : List Char → List Char
  | [] => []
  | [c] => if c = 'Σ' then ['ς'] else lowerChar c
  | c :: cs => lowerChar c ++ lowerWord cs

/-- A word with its first letter in upper case and the others in lower case. -/
def capitalize : List Char → List Char
  | [] => []
  | c :: cs => upperChar c ++ lowerWord cs

/-- An identifier as lower case words joined by underscores. -/
def snakeCase (cs : List Char) : List Char :=
  ['_'].intercalate ((words cs).map lowerWord)

/-- An identifier as capitalized words with nothing between them. -/
def upperCamelCase (cs : List Char) : List Char :=
  (words cs).flatMap capitalize

end TableQuery.Text
