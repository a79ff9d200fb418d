import TableQuery.Proofs.Meaning.Operators
import TableQuery.Proofs.Number.Order

/-!
# The evaluation of texts over numbers

What a server makes of the phrases of a text on a row, for texts over integers, floats and truth
values.  A quantity is whole or a fraction, whatever its number is: the quotient of two whole
quantities is truncated, and as soon as a fraction takes part, arithmetic is that of the rational
numbers.  Nothing is rounded and nothing overflows.  Truth values are the numbers one and zero.
-/

namespace TableQuery

/-- A number as a server has it. -/
inductive Quantity where
  | null
  | whole (n : ℤ)
  | fraction (x : ℚ)

namespace Quantity

/-- The number of a quantity. -/
def number? : Quantity → Option ℚ
  | null => none
  | whole n => some n
  | fraction x => some x

/-- Whether a quantity takes part in arithmetic as a fraction. -/
def isFraction : Quantity → Bool
  | fraction _ => true
  | _ => false

/-- A truth value. -/
def truth (b : Bool) : Quantity := whole (if b then 1 else 0)

end Quantity

/-- The quantity of a value; infinities and not-a-number have none. -/
def Value.quantity? : Value → Option Quantity
  | .null => some .null
  | .bool b => some (.truth b)
  | .int n => some (.whole n.toInt)
  | .float x => (Number.rational? x).map .fraction
  | _ => none

/-- The number of a value. -/
def Value.number? (v : Value) : Option ℚ := v.quantity?.bind Quantity.number?

/-- Whether the operator is one of the four operations of arithmetic. -/
def BinaryOp.isElementary : BinaryOp → Bool
  | add | subtract | multiply | divide => true
  | _ => false

/-- An elementary operator is no other one. -/
lemma BinaryOp.not_of_isElementary {op : BinaryOp} (h : op.isElementary = true) :
    op ≠ .coalesce ∧ op ≠ .exclusiveOr ∧ ¬ op.isLogical = true ∧ ¬ op.isComparison = true := by
  cases op with
  | add | subtract | multiply | divide => simp [isLogical, isComparison]
  | _ => cases h

/-- A comparison does not choose the first value that is not null. -/
lemma BinaryOp.ne_coalesce_of_isComparison {op : BinaryOp} (h : op.isComparison = true) :
    op ≠ .coalesce := by
  rintro rfl
  cases h

namespace Sql

/-- What a sign stands for between rational numbers. -/
def ratio (sign : String) (x y : ℚ) : Option ℚ :=
  match sign with
  | "+" => some (x + y)
  | "-" => some (x - y)
  | "*" => some (x * y)
  | "/" => if y = 0 then none else some (x / y)
  | _ => none

/-- What a sign computes between whole quantities. -/
def wholly (sign : String) (m n : ℤ) : Option Quantity :=
  match sign with
  | "+" => some (.whole (m + n))
  | "-" => some (.whole (m - n))
  | "*" => some (.whole (m * n))
  | "/" => if n = 0 then none else some (.whole (m.tdiv n))
  | sign => (related sign m n).bind Value.quantity?

/-- What a sign computes between quantities of which one is a fraction. -/
def partly (sign : String) (x y : ℚ) : Option Quantity :=
  match ratio sign x y with
  | some z => some (.fraction z)
  | none => (related sign x y).bind Value.quantity?

/-- What a sign computes between two quantities. -/
def measured (sign : String) : Quantity → Quantity → Option Quantity
  | .null, _ | _, .null => some .null
  | .whole m, .whole n => wholly sign m n
  | .whole m, .fraction y => partly sign m y
  | .fraction x, .whole n => partly sign x n
  | .fraction x, .fraction y => partly sign x y

/-- What a sign computes before a quantity. -/
def turned (sign : String) (x : Quantity) : Option Quantity :=
  match sign, x with
  | _, .null => some .null
  | "-", .whole n => some (.whole (-n))
  | "-", .fraction x => some (.fraction (-x))
  | _, _ => none

/-- The first of some quantities that is not null; those after it are not looked at. -/
def firstMeasured : List (Option Quantity) → Option Quantity
  | [] => some .null
  | some .null :: xs => firstMeasured xs
  | x :: _ => x

section Phrases

variable (columns : String → Option Value)

mutual

/-- The quantity of a phrase, where `columns` gives the values of the columns of the row. -/
def Phrase.quantity? : Phrase → Option Quantity
  | .value v => v.quantity?
  | .word w => (wordValue w).bind Value.quantity?
  | .column none name => (columns name).bind Value.quantity?
  | .group ps => quantity? ps
  | .call f ps => if f = "COALESCE" then firstMeasured (quantities? ps) else none
  | .column (some _) _ | .literal _ | .symbol _ | .mark _ => none

/-- The quantity of phrases that stand together. -/
def quantity? : List Phrase → Option Quantity
  | [p] => p.quantity?
  | [.symbol s, p] => p.quantity?.bind (turned s)
  | [p, .symbol s, q] => p.quantity?.bind fun x => q.quantity?.bind (measured s x)
  | [.word c, .word w, p, .word t, y, .word e, n, .word f] =>
    if [c, w, t, e, f] = ["CASE", "WHEN", "THEN", "ELSE", "END"] then
      p.quantity?.bind fun x => if x.number? = some 1 then y.quantity? else n.quantity?
    else none
  | _ => none

/-- The quantities of phrases with commas between them. -/
def quantities? : List Phrase → List (Option Quantity)
  | [] => []
  | [p] => [p.quantity?]
  | p :: .mark ',' :: ps => p.quantity? :: quantities? ps
  | _ => [none]

end

end Phrases

section Signs

variable {op : BinaryOp} {x y : Quantity} {m n k : ℚ}

/-- Integers compare as rational numbers do. -/
lemma compare_intCast (a b : ℤ) : compare (a : ℚ) (b : ℚ) = compare a b := by
  rw [← cmp_eq_compare, Int.cast_strictMono.cmp_map_eq, cmp_eq_compare]

/-- The sign of a comparison computes no number. -/
lemma related_of_comparison (hop : op.isComparison = true) (a b : ℤ) (m n : ℚ) :
    wholly op.symbol a b = (related op.symbol a b).bind Value.quantity? ∧
      partly op.symbol m n = (related op.symbol m n).bind Value.quantity? := by
  cases op with
  | equal | notEqual | lessThan | lessThanOrEqual | greaterThan | greaterThanOrEqual =>
    exact ⟨rfl, rfl⟩
  | _ => cases hop

/-- The quantity of a truth value is the truth value. -/
lemma quantity?_truth (b : Bool) :
    (some (ofTruth (some b))).bind Value.quantity? = some (Quantity.truth b) := by
  cases b <;> rfl

/-- A comparison is one of the numbers of its operands, whatever they take part as. -/
theorem measured_of_comparison (hop : op.isComparison = true) (hx : x.number? = some m)
    (hy : y.number? = some n) :
    measured op.symbol x y = some (.truth (Fold.satisfies op (compare m n))) := by
  have hpartly : partly op.symbol m n = some (.truth (Fold.satisfies op (compare m n))) := by
    rw [(related_of_comparison hop 0 0 m n).2, related_symbol hop, quantity?_truth]
  cases x with
  | null => cases hx
  | whole a =>
    cases hx
    cases y with
    | null => cases hy
    | whole b =>
      cases hy
      rw [compare_intCast, measured, (related_of_comparison hop a b 0 0).1, related_symbol hop,
        quantity?_truth]
    | fraction b =>
      cases hy
      exact hpartly
  | fraction a =>
    cases hx
    cases y with
    | null => cases hy
    | whole b =>
      cases hy
      exact hpartly
    | fraction b =>
      cases hy
      exact hpartly

/-- Arithmetic in which a fraction takes part, or without a quotient, is that of the rational
numbers. -/
theorem measured_of_ratio (hx : x.number? = some m) (hy : y.number? = some n)
    (hk : ratio op.symbol m n = some k)
    (hdivide : op = .divide → x.isFraction = true ∨ y.isFraction = true) :
    ∃ z, measured op.symbol x y = some z ∧ z.number? = some k ∧
      z.isFraction = (x.isFraction || y.isFraction) := by
  have hpartly : partly op.symbol m n = some (.fraction k) := by
    rw [partly, hk]
  cases x with
  | null => cases hx
  | whole a =>
    cases hx
    cases y with
    | null => cases hy
    | whole b =>
      cases hy
      -- Between whole quantities only the quotient differs from that of the numbers.
      cases op with
      | add | subtract | multiply =>
        cases hk
        refine ⟨_, rfl, ?_, rfl⟩
        rw [Quantity.number?]
        push_cast
        rfl
      | divide => obtain h | h := hdivide rfl <;> cases h
      | _ => cases hk
    | fraction b =>
      cases hy
      exact ⟨_, hpartly, rfl, rfl⟩
  | fraction a =>
    cases hx
    cases y with
    | null => cases hy
    | whole b =>
      cases hy
      exact ⟨_, hpartly, rfl, rfl⟩
    | fraction b =>
      cases hy
      exact ⟨_, hpartly, rfl, rfl⟩

/-- A sign before a number turns it around. -/
lemma turned_minus (hx : x.number? = some m) :
    ∃ z, turned "-" x = some z ∧ z.number? = some (-m) ∧ z.isFraction = x.isFraction := by
  cases x with
  | null => cases hx
  | whole a =>
    cases hx
    refine ⟨_, rfl, ?_, rfl⟩
    rw [Quantity.number?, Int.cast_neg]
  | fraction a =>
    cases hx
    exact ⟨_, rfl, rfl, rfl⟩

/-- A quantity with the number of an integer, and not a fraction, is that integer. -/
lemma eq_whole {a : ℤ} (hx : x.number? = some (a : ℚ)) (hwhole : x.isFraction = false) :
    x = .whole a := by
  cases x with
  | null => cases hx
  | whole b =>
    have hb : (b : ℚ) = a := Option.some.inj hx
    rw [Int.cast_inj.mp hb]
  | fraction b => cases hwhole

/-- A sign between whole quantities computes what folding does. -/
theorem wholly_of_binary {a b : Int64} {v : Value} (hop : op.isElementary = true)
    (h : Fold.binary op (.int a) (.int b) = .ok v) :
    ∃ c : Int64, v = .int c ∧ wholly op.symbol a.toInt b.toInt = some (.whole c.toInt) := by
  cases op with
  | add | subtract | multiply =>
    obtain ⟨c, rfl, hc⟩ := exact_ok_iff.mp h
    exact ⟨c, rfl, congrArg (some ∘ Quantity.whole) hc.symm⟩
  | divide =>
    obtain ⟨hb, h⟩ := divides_ok_iff.mp h
    obtain ⟨c, rfl, hc⟩ := exact_ok_iff.mp h
    exact ⟨c, rfl, (if_neg hb).trans (congrArg (some ∘ Quantity.whole) hc.symm)⟩
  | _ => cases hop

end Signs

end Sql

end TableQuery
