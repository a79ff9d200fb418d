import Mathlib.Tactic.Lemma
import TableQuery.Number.Integer
import TableQuery.Proofs.Text.Phrase

/-!
# The evaluation of texts

What a server makes of the phrases of a text on a row, for texts over integers, truth values and
texts in which every operand is a single phrase.  Truth values are the numbers one and zero.
Integers are exact and have 64 bits; division and remainder round toward zero.  A phrase that cannot
be evaluated has no value, and what is computed from it has none either, except that the connectives
take it for unknown, that `COALESCE` looks at an operand only if those before it are null, and that
`CASE` looks only at the branch that it takes.  Null is a value, and as a truth value it is unknown.
-/

namespace TableQuery

/-- A value as a server has it: a truth value is one or zero. -/
def Value.stored : Value → Value
  | .bool b => .int (if b then 1 else 0)
  | v => v

namespace Sql

/-- What a truth value, if it is known, is as a value. -/
def ofTruth : Option Bool → Value
  | some b => (Value.bool b).stored
  | none => .null

/-- The truth value that a value is, if it is known. -/
def truthOf : Option Value → Option Bool
  | some (.int n) => if n = 1 then some true else if n = 0 then some false else none
  | _ => none

/-- The conjunction of truth values: false as soon as one is false. -/
def conjoined : Option Bool → Option Bool → Option Bool
  | some false, _ | _, some false => some false
  | some true, some true => some true
  | _, _ => none

/-- The disjunction of truth values: true as soon as one is true. -/
def disjoined : Option Bool → Option Bool → Option Bool
  | some true, _ | _, some true => some true
  | some false, some false => some false
  | _, _ => none

/-- A number, if it has 64 bits. -/
def fitted (n : Int) : Option Value := (Number.int64? n).map .int

/-- Whether two members of an order are in the relation that a sign stands for. -/
def related {α : Type} [DecidableEq α] [LT α] [DecidableLT α] (sign : String) (a b : α) :
    Option Value :=
  match sign with
  | "=" => some (ofTruth (some (decide (a = b))))
  | "!=" => some (ofTruth (some (decide (a ≠ b))))
  | "<" => some (ofTruth (some (decide (a < b))))
  | "<=" => some (ofTruth (some (!decide (b < a))))
  | ">" => some (ofTruth (some (decide (b < a))))
  | ">=" => some (ofTruth (some (!decide (a < b))))
  | _ => none

/-- What a sign between two integers computes. -/
def computed (sign : String) (a b : Int64) : Option Value :=
  match sign with
  | "+" => fitted (a.toInt + b.toInt)
  | "-" => fitted (a.toInt - b.toInt)
  | "*" => fitted (a.toInt * b.toInt)
  | "/" => if b.toInt = 0 then none else fitted (a.toInt.tdiv b.toInt)
  | "%" => if b.toInt = 0 then none else fitted (a.toInt.tmod b.toInt)
  | "&" => some (.int (a &&& b))
  | "|" => some (.int (a ||| b))
  | "^" => some (.int (a ^^^ b))
  | sign => related sign a.toInt b.toInt

/-- What a sign between two values computes. -/
def operated (sign : String) : Value → Value → Option Value
  | .null, _ | _, .null => some .null
  | .int a, .int b => computed sign a b
  | .text a, .text b =>
    if sign = "+" ∨ sign = "||" then some (.text (a ++ b)) else related sign a b
  | _, _ => none

/-- What a sign before a value computes. -/
def signed (sign : String) : Value → Option Value
  | .null => some .null
  | .int n =>
    match sign with
    | "-" => fitted (-n.toInt)
    | "~" => some (.int (~~~n))
    | _ => none
  | _ => none

/-- The first of some values that is not null; those after it are not looked at. -/
def firstPresent : List (Option Value) → Option Value
  | [] => some .null
  | some .null :: rs => firstPresent rs
  | r :: _ => r

/-- Whether a value equals one of some values. -/
def amongst (v : Value) : List (Option Value) → Option Bool
  | [] => some false
  | r :: rs => disjoined (truthOf (r.bind (operated "=" v))) (amongst v rs)

/-- What a word between two phrases computes, from their values and those in the second one. -/
def connected (word : String) (x y : Option Value) (members : List (Option Value)) :
    Option Value :=
  match word with
  | "and" => some (ofTruth (conjoined (truthOf x) (truthOf y)))
  | "or" => some (ofTruth (disjoined (truthOf x) (truthOf y)))
  | "IN" => x.map fun v => ofTruth (amongst v members)
  | _ => none

/-- The value of a word. -/
def wordValue (word : String) : Option Value :=
  match word with
  | "NULL" => some .null
  | "true" => some (.int 1)
  | "false" => some (.int 0)
  | word => (Number.readInt64 word.toList).map .int

section Phrases

variable (columns : String → Option Value)

mutual

/-- The value of a phrase, where `columns` gives the values of the columns of the row. -/
def Phrase.value? : Phrase → Option Value
  | .value v => some v.stored
  | .literal s => some (.text s)
  | .word w => wordValue w
  | .column none name => (columns name).map Value.stored
  | .group ps => value? ps
  | .call f ps => if f = "COALESCE" then firstPresent (listed? ps) else none
  | .column (some _) _ | .symbol _ | .mark _ => none

/-- The value of phrases that stand together. -/
def value? : List Phrase → Option Value
  | [p] => p.value?
  | [.symbol s, p] => p.value?.bind (signed s)
  | [.word w, p] => if w = "not" then some (ofTruth ((truthOf p.value?).map not)) else none
  | [p, .symbol s, q] => p.value?.bind fun v => q.value?.bind (operated s v)
  | [p, .word w, q] => connected w p.value? q.value? q.members?
  | [.word c, .word w, p, .word t, y, .word e, n, .word f] =>
    if [c, w, t, e, f] = ["CASE", "WHEN", "THEN", "ELSE", "END"] then
      p.value?.bind fun v => if truthOf (some v) = some true then y.value? else n.value?
    else none
  | _ => none

/-- The values in a group. -/
def Phrase.members? : Phrase → List (Option Value)
  | .group ps => listed? ps
  | _ => []

/-- The values of phrases with commas between them. -/
def listed? : List Phrase → List (Option Value)
  | [] => []
  | [p] => [p.value?]
  | p :: .mark ',' :: ps => p.value? :: listed? ps
  | _ => [none]

end

end Phrases

end Sql

end TableQuery
