import Mathlib.Data.List.DropRight
import TableQuery.Proofs.Statement

/-!
# Functions of texts

What SQLite and PostgreSQL make of the texts of calls of functions of texts, and SQL Server of those
that take a part of a text.  Lengths and positions count characters.  A part of a text is what lies
inside a window of positions, which may begin before the text or end behind it (`window`).  Only
spaces are trimmed, that is the character U+0020.  What the server has for the phrases of other
operands is a parameter.
-/

namespace TableQuery.Sql

/-- What a server computes with. -/
inductive Datum where
  | text (s : String)
  | number (n : ℤ)
  deriving DecidableEq

/-- The value that a program gets for a datum, where integers have 64 bits. -/
def Datum.value : Datum → Value
  | text s => .text s
  | number n => .int (Int64.ofInt n)

/-- The ends of a text that are trimmed. -/
structure Ends where
  start : Bool
  stop : Bool

/-- The characters without those of a kind that they begin and end with. -/
def strip (p : Char → Bool) (ends : Ends) (cs : List Char) : List Char :=
  let rest := if ends.start then cs.dropWhile p else cs
  if ends.stop then rest.rdropWhile p else rest

/-- Whether a character is the space. -/
def isSpace (c : Char) : Bool := c == ' '

/-- The characters at the positions from `first` on, at most as many as `count` says.  The first
character has position one. -/
def window (first : ℤ) (count : Option ℤ) (cs : List Char) : List Char :=
  match count with
  | none => cs.drop (first - 1).toNat
  | some n => (cs.take (first - 1 + n).toNat).drop (first - 1).toNat

/-- The position that a window begins at.  SQLite counts a negative one from the end. -/
def firstPosition (d : Dialect) (position : ℤ) (cs : List Char) : ℤ :=
  if d = .sqlite ∧ position < 0 then cs.length + 1 + position else position

/-- What a function computes from a text and numbers. -/
def computedFrom (d : Dialect) (f : String) (cs : List Char) : List ℤ → Option Datum
  | [] =>
    match f with
    | "length" => some (.number cs.length)
    | "trim" => some (.text (.ofList (strip isSpace ⟨true, true⟩ cs)))
    | "ltrim" => some (.text (.ofList (strip isSpace ⟨true, false⟩ cs)))
    | "rtrim" => some (.text (.ofList (strip isSpace ⟨false, true⟩ cs)))
    | _ => none
  | [m] =>
    match f with
    | "substr" => some (.text (.ofList (window (firstPosition d m cs) none cs)))
    | "right" | "RIGHT" => if m < 0 then none else some (.text (.ofList (cs.rtake m.toNat)))
    | _ => none
  | [m, n] =>
    match f with
    | "substr" | "SUBSTRING" =>
      if n < 0 then none else some (.text (.ofList (window (firstPosition d m cs) (some n) cs)))
    | _ => none
  | _ => none

section Phrases

variable (d : Dialect) (given : Phrase → Option Datum)

mutual

/-- What a server has for a phrase: parameters and literals, numerals, calls of functions of texts,
and two texts that are joined.  For other phrases it has what is given. -/
def Phrase.datum? : Phrase → Option Datum
  | .value (.text s) | .literal s => some (.text s)
  | .word w => (Number.readNat w.toList).map fun n => .number n
  | .call f ps => (called? f ps).or (given (.call f ps))
  | .group ps => (joinedDatum? ps).or (given (.group ps))
  | p => given p

/-- What a server has for a call with a text as its first argument. -/
def called? (f : String) : List Phrase → Option Datum
  | [p] =>
    match p.datum? with
    | some (.text s) => computedFrom d f s.toList []
    | _ => none
  | p :: .mark ',' :: ps =>
    match p.datum? with
    | some (.text s) => (numbers? ps).bind (computedFrom d f s.toList)
    | _ => none
  | _ => none

/-- The numbers that phrases with commas between them are. -/
def numbers? : List Phrase → Option (List ℤ)
  | [p] => p.number?.map ([·])
  | p :: .mark ',' :: ps => do return (← p.number?) :: (← numbers? ps)
  | .symbol s :: ps => if s = "-" then (numbers? ps).map (List.modifyHead Neg.neg) else none
  | [] | _ :: _ => none

/-- The number that a phrase is. -/
def Phrase.number? (p : Phrase) : Option ℤ :=
  match p.datum? with
  | some (.number n) => some n
  | _ => none

/-- What a server has for two texts with the sign between them that joins texts. -/
def joinedDatum? : List Phrase → Option Datum
  | [p, .symbol s, q] =>
    if s = "||" then
      match p.datum?, q.datum? with
      | some (.text a), some (.text b) => some (.text (a ++ b))
      | _, _ => none
    else none
  | _ => none

end

/-- The truth value of a test for equality in parentheses. -/
def holds? : List Phrase → Option Bool
  | [.group [p, .symbol s, q]] =>
    if s = "=" then do return decide ((← p.datum? d given) = (← q.datum? d given)) else none
  | _ => none

/-- What a server has for the text of a statement, with the parameters of the statement. -/
def Statement.datum? (st : Statement) : Option Datum :=
  match st.phrases? d with
  | some [p] => p.datum? d given
  | _ => none

/-- The truth value of the text of a statement, with the parameters of the statement. -/
def Statement.holds? (st : Statement) : Option Bool := (st.phrases? d).bind (Sql.holds? d given)

/-- A value is written as a single phrase, for which the server has a datum. -/
def Scalar.Has (x : Scalar) (r : Datum) : Prop :=
  ∃ p, x.phrases d = [p] ∧ p.datum? d given = some r

/-- The server has a datum for an operand over the row of a query. -/
def OperandHas (q : Query) (e : Expr) (r : Datum) : Prop :=
  ∃ x, (formsOf e (Context.top d q)).scalar.result = .ok x ∧ x.Has d given r

end Phrases

section Values

variable {d : Dialect} {given : Phrase → Option Datum} {p : Phrase} {x y : Scalar} {s t : String}

/-- The server has the number that a numeral is. -/
lemma datum?_numeral (n : ℕ) : Phrase.datum? d given (.word (toString n)) = some (.number n) := by
  rw [Phrase.datum?, readNat_toString]
  rfl

/-- The server has what it is given for a column. -/
lemma datum?_column (qualifier : Option String) (name : String) :
    Phrase.datum? d given (.column qualifier name) = given (.column qualifier name) := by
  simp [Phrase.datum?]

/-- A call on a text alone. -/
lemma datum?_call_text {f : String} {r : Datum} (hp : p.datum? d given = some (.text s))
    (hf : computedFrom d f s.toList [] = some r) :
    Phrase.datum? d given (.call f [p]) = some r := by
  rw [Phrase.datum?, called?, hp]
  dsimp only
  rw [hf, Option.some_or]

/-- A call on a text and some numbers. -/
lemma datum?_call {f : String} {r : Datum} {ps : List Phrase} {ns : List ℤ}
    (hp : p.datum? d given = some (.text s)) (hps : numbers? d given ps = some ns)
    (hf : computedFrom d f s.toList ns = some r) :
    Phrase.datum? d given (.call f (p :: .mark ',' :: ps)) = some r := by
  rw [Phrase.datum?, called?, hp]
  dsimp only
  rw [hps, Option.bind_some, hf, Option.some_or]

/-- A phrase with a number as its datum is a number. -/
lemma number?_of_datum? {n : ℤ} (h : p.datum? d given = some (.number n)) :
    p.number? d given = some n := by
  rw [Phrase.number?, h]

/-- A number stands for itself. -/
lemma has_number (n : ℕ) : (Scalar.number n).Has d given (.number n) :=
  ⟨_, by rw [Scalar.phrases], datum?_numeral n⟩

/-- A parameter that is a text stands for it. -/
lemma has_text : (Scalar.param (.text s)).Has d given (.text s) :=
  ⟨_, by rw [Scalar.phrases], by rw [Phrase.datum?]⟩

/-- A routine of a text. -/
lemma has_call {f : Routine} {r : Datum} (hx : x.Has d given (.text s))
    (hf : computedFrom d (f.name d) s.toList [] = some r) :
    (Scalar.call f [x]).Has d given r := by
  obtain ⟨p, hxp, hp⟩ := hx
  refine ⟨.call (f.name d) [p], ?_, datum?_call_text hp hf⟩
  rw [Scalar.phrases, scalarListPhrases, hxp]

/-- The length of a text is the number of its characters. -/
lemma computedFrom_length {cs : List Char} :
    computedFrom d "length" cs [] = some (.number cs.length) := rfl

/-- The server has the length of a text. -/
lemma has_length (hd : d ≠ .sqlServer) (hx : x.Has d given (.text s)) :
    (Scalar.call .length [x]).Has d given (.number s.toList.length) := by
  apply has_call hx
  cases d with
  | sqlServer => exact absurd rfl hd
  | _ => rfl

/-- The server has the concatenation of two texts. -/
lemma has_concat (hd : d ≠ .sqlServer) (hx : x.Has d given (.text s))
    (hy : y.Has d given (.text t)) : (Scalar.paren (.concat x y)).Has d given (.text (s ++ t)) := by
  obtain ⟨p, hxp, hp⟩ := hx
  obtain ⟨q, hyq, hq⟩ := hy
  refine ⟨.group [p, .symbol "||", q], ?_, ?_⟩
  · rw [Scalar.phrases, Scalar.phrases, hxp, hyq]
    cases d with
    | sqlServer => exact absurd rfl hd
    | _ => rfl
  · rw [Phrase.datum?, joinedDatum?, if_pos rfl, hp, hq, Option.some_or]

/-- A test for equality compares what the server has for its sides. -/
lemma holds?_compared {a b : Datum} (hx : x.Has d given a) (hy : y.Has d given b) :
    holds? d given ((compared .equal x y).phrases d) = some (decide (a = b)) := by
  obtain ⟨p, hxp, hp⟩ := hx
  obtain ⟨q, hyq, hq⟩ := hy
  have hphrases : (compared .equal x y).phrases d = [.group [p, .symbol "=", q]] := by
    rw [compared, Cond.phrases, Cond.phrases, hxp, hyq]
    rfl
  rw [hphrases, holds?, if_pos rfl, hp, hq]
  rfl

end Values

end TableQuery.Sql
