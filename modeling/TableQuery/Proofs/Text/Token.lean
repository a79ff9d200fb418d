import Mathlib.Tactic.Lemma
import TableQuery.Sql.Dialect

/-!
# Tokens

The text of a statement as a database reads it: quoted identifiers, literals between apostrophes,
words, signs made of operator characters, and single marks such as parentheses and commas.  A quoted
identifier or a literal ends at a closing delimiter that is not doubled, and nothing inside it
counts as anything else.  A word is as long as possible and may hold the characters that mark
parameters, so a parameter is a whole word.

Scanning is a machine that looks at one character at a time.  The lemmas say what it does with the
text of one token, and that a text may be cut wherever the next character does not belong to the
token before it (`scan_append`).
-/

namespace TableQuery.Sql

/-- A token of a text. -/
inductive Token where
  /-- A word: a keyword, a name of a function, a number or the mark of a parameter. -/
  | word (s : String)
  /-- A sign made of operator characters. -/
  | symbol (s : String)
  /-- A quoted identifier, with the name it stands for. -/
  | name (s : String)
  /-- A text between apostrophes. -/
  | literal (s : String)
  /-- Any other character. -/
  | mark (c : Char)
  deriving DecidableEq

/-- Whether a character belongs to words. -/
def isWordChar (c : Char) : Bool :=
  c.isAlphanum || c == '_' || c == '@' || c == '$' || c == '#' || 128 ≤ c.toNat

/-- Whether a character belongs to signs. -/
def isSymbolChar (c : Char) : Bool :=
  ['=', '!', '<', '>', '+', '-', '*', '/', '%', '&', '|', '^', '~', '?'].contains c

/-- Where a scan stands between two characters, with the characters of the token it is in.  After a
closing delimiter the token may still go on, if the delimiter is doubled. -/
inductive Scan where
  | gap
  | word (cs : List Char)
  | symbol (cs : List Char)
  | name (cs : List Char)
  | nameEnd (cs : List Char)
  | literal (cs : List Char)
  | literalEnd (cs : List Char)

namespace Scan

/-- The step at the first character after a token: the token that is already complete, and the new
place. -/
def start (d : Dialect) (c : Char) : List Token × Scan :=
  if c = d.quotes.1 then ([], name [])
  else if c = '\'' then ([], literal [])
  else if isWordChar c then ([], word [c])
  else if isSymbolChar c then ([], symbol [c])
  else if c.isWhitespace then ([], gap)
  else ([.mark c], gap)

/-- The token that ends where the scan stands, if one does. -/
def pending : Scan → List Token
  | word cs => [.word (String.ofList cs)]
  | symbol cs => [.symbol (String.ofList cs)]
  | nameEnd cs => [.name (String.ofList cs)]
  | literalEnd cs => [.literal (String.ofList cs)]
  | gap | name _ | literal _ => []

/-- The place after a character that belongs to the token before it, if it does. -/
def continued? (d : Dialect) (c : Char) : Scan → Option Scan
  | gap => none
  | word cs => if isWordChar c then some (word (cs ++ [c])) else none
  | symbol cs => if isSymbolChar c then some (symbol (cs ++ [c])) else none
  | name cs => some (if c = d.quotes.2 then nameEnd cs else name (cs ++ [c]))
  | nameEnd cs => if c = d.quotes.2 then some (name (cs ++ [c])) else none
  | literal cs => some (if c = '\'' then literalEnd cs else literal (cs ++ [c]))
  | literalEnd cs => if c = '\'' then some (literal (cs ++ [c])) else none

/-- One step: the tokens that are complete, and the new place. -/
def step (d : Dialect) (c : Char) (st : Scan) : List Token × Scan :=
  match st.continued? d c with
  | some next => ([], next)
  | none => (st.pending ++ (start d c).1, (start d c).2)

/-- The steps over several characters. -/
def steps (d : Dialect) : List Char → Scan → List Token × Scan
  | [], st => ([], st)
  | c :: cs, st =>
    ((st.step d c).1 ++ (steps d cs (st.step d c).2).1, (steps d cs (st.step d c).2).2)

/-- The last tokens at the end of a text; inside a quoted identifier or a literal there is no
end. -/
def finish? : Scan → Option (List Token)
  | name _ | literal _ => none
  | st => some st.pending

end Scan

/-- The tokens of the rest of a text. -/
def scan? (d : Dialect) (st : Scan) (cs : List Char) : Option (List Token) :=
  (st.steps d cs).2.finish?.map ((st.steps d cs).1 ++ ·)

/-- The tokens of a text, if all of it can be read. -/
def tokens? (d : Dialect) (text : String) : Option (List Token) := scan? d .gap text.toList

/-- Whether a word marks a parameter.  A word that begins with the mark twice is the name of a
variable of the server. -/
def isMarker (d : Dialect) (word : String) : Bool :=
  match word.toList with
  | m :: c :: _ => m == d.marker && c != d.marker
  | _ => false

/-- The mark of a parameter that a token is. -/
def Token.marker? (d : Dialect) : Token → Option String
  | .word s => if isMarker d s then some s else none
  | _ => none

/-- The marks of parameters in a text, from left to right. -/
def markers? (d : Dialect) (text : String) : Option (List String) :=
  (tokens? d text).map fun ts => ts.filterMap (Token.marker? d)

namespace Scan

variable {d : Dialect}

/-- Steps over two texts are the steps over one after the steps over the other. -/
lemma steps_append (xs ys : List Char) (st : Scan) :
    steps d (xs ++ ys) st =
      ((steps d xs st).1 ++ (steps d ys (steps d xs st).2).1,
        (steps d ys (steps d xs st).2).2) := by
  induction xs generalizing st with
  | nil => rfl
  | cons c cs ih => simp only [List.cons_append, steps, ih, List.append_assoc]

/-- Steps that only lengthen a word. -/
lemma steps_word {cs : List Char} (h : ∀ c ∈ cs, isWordChar c = true) (w : List Char) :
    steps d cs (word w) = ([], word (w ++ cs)) := by
  induction cs generalizing w with
  | nil => simp [steps]
  | cons c cs ih =>
    have hc : isWordChar c = true := h c (by simp)
    have hs : step d c (word w) = ([], word (w ++ [c])) := by simp [step, continued?, hc]
    rw [steps, hs, ih (fun x hx => h x (by simp [hx]))]
    simp

/-- A quoted identifier is read back: at its closing delimiter the scan holds the name. -/
lemma steps_name (name rest : List Char) :
    steps d (Dialect.doubled d.quotes.2 name ++ [d.quotes.2]) (.name rest) =
      ([], nameEnd (rest ++ name)) := by
  induction name generalizing rest with
  | nil => simp [Dialect.doubled, steps, step, continued?]
  | cons c cs ih =>
    by_cases hc : c = d.quotes.2
    · subst hc
      simp only [Dialect.doubled, if_true, List.cons_append, steps, step, continued?, ih]
      simp
    · simp only [Dialect.doubled, if_neg hc, List.cons_append, steps, step, continued?, ih]
      simp

/-- A literal without apostrophes is read back. -/
lemma steps_literal {cs : List Char} (h : '\'' ∉ cs) (rest : List Char) :
    steps d (cs ++ ['\'']) (literal rest) = ([], literalEnd (rest ++ cs)) := by
  induction cs generalizing rest with
  | nil => simp [steps, step, continued?]
  | cons c cs ih =>
    have hc : c ≠ '\'' := fun e => h (e ▸ List.mem_cons_self)
    have hcs : '\'' ∉ cs := fun hm => h (List.mem_cons_of_mem c hm)
    simp only [List.cons_append, steps, step, continued?, if_neg hc, ih hcs]
    simp

end Scan

/-- Whether the text that follows leaves a token as it is: it begins with a character that does not
belong to the token. -/
def Scan.Stops (d : Dialect) (st : Scan) (rest : List Char) : Prop :=
  ∀ c ∈ rest.head?, st.continued? d c = none

/-- A text may be cut after a complete token, where the next character does not belong to it. -/
lemma scan_append {d : Dialect} {xs rest : List Char}
    (hf : (Scan.steps d xs .gap).2.finish? = some (Scan.steps d xs .gap).2.pending)
    (hs : (Scan.steps d xs .gap).2.Stops d rest) :
    scan? d .gap (xs ++ rest) =
      (scan? d .gap rest).map
        ((Scan.steps d xs .gap).1 ++ (Scan.steps d xs .gap).2.pending ++ ·) := by
  generalize h : Scan.steps d xs .gap = r at hf hs
  obtain ⟨ts, st⟩ := r
  cases rest with
  | nil => simp_all [scan?, Scan.steps, Scan.finish?, Scan.pending]
  | cons c cs =>
    have hc : st.continued? d c = none := hs c rfl
    have hstep : st.step d c = (st.pending ++ (Scan.start d c).1, (Scan.start d c).2) := by
      simp [Scan.step, hc]
    have hgap : Scan.gap.step d c = Scan.start d c := by
      simp [Scan.step, Scan.continued?, Scan.pending]
    simp only [scan?, Scan.steps_append, h, Scan.steps, hstep, hgap, Option.map_map]
    simp [Function.comp_def, List.append_assoc]

end TableQuery.Sql
