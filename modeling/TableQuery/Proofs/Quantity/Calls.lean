import Mathlib.Data.Rat.Floor
import TableQuery.Proofs.Quantity.Evaluation

/-!
# The evaluation of texts that round and select

What a server makes of the texts of calls that round a number to an integer or select one of two, on
a row.  Each dialect has functions for some of them.  The others are written as a choice, by a
comparison, between phrases of which some are converted to integers.

A conversion to an integer rounds toward zero (`truncation`) as long as the number has 64 bits;
beyond that servers differ, and what they do then is a parameter.
-/

namespace TableQuery.Sql

/-- A number without its fraction. -/
def truncation (x : ℚ) : ℤ := if x < 0 then ⌈x⌉ else ⌊x⌋

/-- The nearest integer on one side. -/
def nearest (up : Bool) (x : ℚ) : ℤ := if up then ⌈x⌉ else ⌊x⌋

/-- The larger or the smaller of two numbers. -/
def extreme (larger : Bool) (x y : ℚ) : ℚ := if larger then max x y else min x y

/-- The direction in which a function rounds, if it does. -/
def roundsUp? (f : String) : Option Bool :=
  match f with
  | "floor" | "FLOOR" => some false
  | "ceil" | "CEILING" => some true
  | _ => none

/-- Whether a function selects the larger of two numbers or the smaller, if it does either. -/
def selectsLarger? (f : String) : Option Bool :=
  match f with
  | "max" | "greatest" => some true
  | "min" | "least" => some false
  | _ => none

/-- Whether a function leaves out operands that are null. -/
def skipsNull (f : String) : Bool := f == "greatest" || f == "least"

/-- What a function makes of one quantity. -/
def roundedBy (f : String) (x : Quantity) : Option Quantity :=
  (roundsUp? f).map fun up =>
    match x with
    | .fraction x => .fraction (nearest up x)
    | x => x

/-- The one of two quantities whose number is the larger or the smaller. -/
def selected (larger : Bool) (x y : Quantity) : Option Quantity := do
  let m ← x.number?
  let n ← y.number?
  return if (if larger then n ≤ m else m ≤ n) then x else y

/-- What a function makes of two quantities. -/
def selectedBy (f : String) (x y : Quantity) : Option Quantity :=
  (selectsLarger? f).bind fun larger =>
    match x, y with
    | .null, z | z, .null => some (if skipsNull f then z else .null)
    | x, y => selected larger x y

/-- What a conversion to an integer makes of a quantity. -/
def converted (convert : ℚ → Option ℤ) : Quantity → Option Quantity
  | .fraction x => (convert x).map .whole
  | x => some x

section Phrases

variable (columns : String → Option Quantity) (convert : ℚ → Option ℤ)

mutual

/-- The quantity of a phrase, where `columns` gives those of the columns of the row and `convert`
what conversions to integers make of fractions. -/
def Phrase.amount? : Phrase → Option Quantity
  | .value v => v.quantity?
  | .word w => (wordValue w).bind Value.quantity?
  | .column none name => columns name
  | .group ps => chosenAmount? ps
  | .call f ps => calledAmount? f ps
  | .column (some _) _ | .literal _ | .symbol _ | .mark _ => none

/-- The quantity of a choice by a comparison. -/
def chosenAmount? : List Phrase → Option Quantity
  | .word c :: .word w :: p :: .symbol s :: q :: .word t :: ps =>
    if [c, w, t] = ["CASE", "WHEN", "THEN"] then
      p.amount?.bind fun x => q.amount?.bind fun y => (measured s x y).bind fun z =>
        branchAmount? (z.number? = some 1) ps
    else none
  | _ => none

/-- The quantity of the branch that is taken. -/
def branchAmount? (test : Bool) : List Phrase → Option Quantity
  | [y, .word e, n, .word f] =>
    if [e, f] = ["ELSE", "END"] then if test then y.amount? else n.amount? else none
  | [y, .symbol s, z, .word e, n, .word f] =>
    if [e, f] = ["ELSE", "END"] then
      if test then y.amount?.bind fun x => z.amount?.bind (measured s x) else n.amount?
    else none
  | _ => none

/-- The quantity of a call. -/
def calledAmount? (f : String) : List Phrase → Option Quantity
  | [p] => p.amount?.bind (roundedBy f)
  | [p, .mark ',', q] => p.amount?.bind fun x => q.amount?.bind (selectedBy f x)
  | [p, .word a, .word ty] =>
    if [f, a, ty] = ["CAST", "AS", "INTEGER"] then p.amount?.bind (converted convert) else none
  | _ => none

end

end Phrases

section Rounding

variable {x y : ℚ}

/-- Nothing is cut off an integer. -/
lemma truncation_intCast (n : ℤ) : truncation n = n := by
  rw [truncation, Int.ceil_intCast, Int.floor_intCast, ite_self]

/-- Where the fraction was removed upwards, the integer below is one less. -/
lemma floor_eq_truncation :
    ⌊x⌋ = if x < truncation x then truncation x - 1 else truncation x := by
  by_cases hx : x < 0
  · rw [truncation, if_pos hx]
    split
    case isTrue hlt =>
      rw [Int.floor_eq_iff]
      push_cast
      exact ⟨by linarith [Int.ceil_lt_add_one x], by linarith⟩
    case isFalse hle =>
      rw [Int.floor_eq_iff]
      exact ⟨not_lt.mp hle, by linarith [Int.le_ceil x]⟩
  · rw [truncation, if_neg hx, if_neg (not_lt.mpr (Int.floor_le x))]

/-- Where the fraction was removed downwards, the integer above is one more. -/
lemma ceil_eq_truncation :
    ⌈x⌉ = if truncation x < x then truncation x + 1 else truncation x := by
  by_cases hx : x < 0
  · rw [truncation, if_pos hx, if_neg (not_lt.mpr (Int.le_ceil x))]
  · rw [truncation, if_neg hx]
    split
    case isTrue hlt =>
      rw [Int.ceil_eq_iff]
      push_cast
      exact ⟨by linarith, by linarith [Int.lt_floor_add_one x]⟩
    case isFalse hle =>
      rw [Int.ceil_eq_iff]
      exact ⟨by linarith [Int.floor_le x], not_lt.mp hle⟩

end Rounding

section Values

variable {columns : String → Option Quantity} {convert : ℚ → Option ℤ} {p q : Phrase}
  {ps : List Phrase} {x y : Quantity} {m n : ℚ} {op : BinaryOp}

/-- Conversions to integers remove the fraction of numbers with 64 bits. -/
def Truncates (convert : ℚ → Option ℤ) : Prop :=
  ∀ x, |x| < 2 ^ 63 → convert x = some (truncation x)

/-- A conversion cuts off the fraction of a number within bounds. -/
lemma converted_of_number (hconvert : Truncates convert) (hx : x.number? = some m)
    (hm : |m| < 2 ^ 63) : converted convert x = some (.whole (truncation m)) := by
  cases x with
  | null => cases hx
  | whole k =>
    cases hx
    rw [truncation_intCast]
    rfl
  | fraction k =>
    cases hx
    rw [converted, hconvert m hm]
    rfl

/-- The nearest integer below or above is that without the fraction, or the one beyond it. -/
lemma nearest_eq_truncation (up : Bool) :
    nearest up m =
      if Fold.satisfies (if up then .greaterThan else .lessThan) (compare m (truncation m))
      then (if up then truncation m + 1 else truncation m - 1) else truncation m := by
  cases up with
  | false =>
    have htest : Fold.satisfies .lessThan (compare m (truncation m)) =
        decide (m < truncation m) := by
      rw [Bool.eq_iff_iff, decide_eq_true_iff, ← compare_lt_iff_lt]
      exact beq_iff_eq
    simp only [nearest, Bool.false_eq_true, if_false, htest, decide_eq_true_eq]
    exact floor_eq_truncation
  | true =>
    have htest : Fold.satisfies .greaterThan (compare m (truncation m)) =
        decide (truncation m < m) := by
      rw [Bool.eq_iff_iff, decide_eq_true_iff, ← compare_gt_iff_gt]
      exact beq_iff_eq
    simp only [nearest, if_true, htest, decide_eq_true_eq]
    exact ceil_eq_truncation

/-- The larger or the smaller of two quantities has the larger or the smaller number. -/
lemma selected_of_number (larger : Bool) (hx : x.number? = some m) (hy : y.number? = some n) :
    ∃ z, selected larger x y = some z ∧ z.number? = some (extreme larger m n) := by
  refine ⟨_, by rw [selected, hx, hy]; rfl, ?_⟩
  cases larger with
  | true =>
    simp only [if_true, extreme]
    split
    case isTrue hle => rw [hx, max_eq_left hle]
    case isFalse hlt => rw [hy, max_eq_right (not_le.mp hlt).le]
  | false =>
    simp only [Bool.false_eq_true, if_false, extreme]
    split
    case isTrue hle => rw [hx, min_eq_left hle]
    case isFalse hlt => rw [hy, min_eq_right (not_le.mp hlt).le]

/-- A routine that rounds gives the nearest integer on its side. -/
lemma roundedBy_of_number {f : String} {up : Bool} (hf : roundsUp? f = some up)
    (hx : x.number? = some m) :
    ∃ z, roundedBy f x = some z ∧ z.number? = some (nearest up m : ℚ) := by
  rw [roundedBy, hf]
  cases x with
  | null => cases hx
  | whole k =>
    cases hx
    refine ⟨_, rfl, ?_⟩
    cases up <;> simp [nearest, Quantity.number?]
  | fraction k =>
    cases hx
    exact ⟨_, rfl, rfl⟩

/-- A routine that selects gives the larger or the smaller number. -/
lemma selectedBy_of_number {f : String} {larger : Bool} (hf : selectsLarger? f = some larger)
    (hx : x.number? = some m) (hy : y.number? = some n) :
    ∃ z, selectedBy f x y = some z ∧ z.number? = some (extreme larger m n) := by
  have hselected : selectedBy f x y = selected larger x y := by
    rw [selectedBy, hf]
    cases x with
    | null => cases hx
    | whole | fraction =>
      cases y with
      | null => cases hy
      | whole | fraction => rfl
  rw [hselected]
  exact selected_of_number larger hx hy

/-- The amount of a routine that rounds. -/
lemma amount?_call₁ {f : String} (hp : p.amount? columns convert = some x) :
    Phrase.amount? columns convert (.call f [p]) = roundedBy f x := by
  rw [Phrase.amount?, calledAmount?, hp, Option.bind_some]

/-- The amount of a routine that selects. -/
lemma amount?_call₂ {f : String} (hp : p.amount? columns convert = some x)
    (hq : q.amount? columns convert = some y) :
    Phrase.amount? columns convert (.call f [p, .mark ',', q]) = selectedBy f x y := by
  rw [Phrase.amount?, calledAmount?, hp, hq, Option.bind_some, Option.bind_some]

/-- The amount of a conversion to an integer. -/
lemma amount?_cast (hp : p.amount? columns convert = some x) :
    Phrase.amount? columns convert (.call "CAST" [p, .word "AS", .word "INTEGER"]) =
      converted convert x := by
  rw [Phrase.amount?, calledAmount?, if_pos rfl, hp, Option.bind_some]

/-- A choice takes the branch that the comparison of its operands says. -/
lemma amount?_choice (hop : op.isComparison = true) (hp : p.amount? columns convert = some x)
    (hq : q.amount? columns convert = some y) (hx : x.number? = some m) (hy : y.number? = some n) :
    Phrase.amount? columns convert (.group (.word "CASE" :: .word "WHEN" :: p ::
        .symbol op.symbol :: q :: .word "THEN" :: ps)) =
      branchAmount? columns convert (Fold.satisfies op (compare m n)) ps := by
  have htruth : ∀ b, decide ((Quantity.truth b).number? = some 1) = b := by
    intro b
    cases b <;> simp [Quantity.truth, Quantity.number?]
  rw [Phrase.amount?, chosenAmount?, if_pos rfl, hp, hq, Option.bind_some, Option.bind_some,
    measured_of_comparison hop hx hy, Option.bind_some, htruth]

/-- A number that is compared with what is left of it without its fraction is rounded to the nearest
integer below or above. -/
theorem amount?_rounding {c : Phrase} {one : String} (up : Bool) (hconvert : Truncates convert)
    (hp : p.amount? columns convert = some x) (hx : x.number? = some m) (hm : |m| < 2 ^ 63)
    (hc : c = .call "CAST" [p, .word "AS", .word "INTEGER"]) (hone : one = "1") :
    Phrase.amount? columns convert (.group [.word "CASE", .word "WHEN", p,
        .symbol (if up then BinaryOp.greaterThan else .lessThan).symbol, c, .word "THEN", c,
        .symbol (if up then BinaryOp.add else .subtract).symbol, .word one, .word "ELSE", c,
        .word "END"]) =
      some (.whole (nearest up m)) := by
  have hcast : c.amount? columns convert = some (.whole (truncation m)) := by
    rw [hc, amount?_cast hp, converted_of_number hconvert hx hm]
  have hunit : Phrase.amount? columns convert (.word one) = some (.whole 1) := by
    rw [hone]
    rfl
  have hop : (if up then BinaryOp.greaterThan else .lessThan).isComparison = true := by
    cases up <;> rfl
  have hbeyond : measured (if up then BinaryOp.add else .subtract).symbol
      (.whole (truncation m)) (.whole 1) =
      some (.whole (if up then truncation m + 1 else truncation m - 1)) := by
    cases up <;> rfl
  rw [amount?_choice hop hp hcast hx rfl, branchAmount?, if_pos rfl, hcast, hunit,
    Option.bind_some, Option.bind_some, hbeyond, nearest_eq_truncation up]
  generalize Fold.satisfies _ _ = test
  cases test <;> rfl

/-- The one of two numbers is chosen that a comparison shows to be the larger or the smaller. -/
theorem amount?_selection (larger : Bool) (hp : p.amount? columns convert = some x)
    (hq : q.amount? columns convert = some y) (hx : x.number? = some m) (hy : y.number? = some n) :
    ∃ z, Phrase.amount? columns convert (.group [.word "CASE", .word "WHEN", p,
        .symbol (if larger then BinaryOp.greaterThanOrEqual else .lessThanOrEqual).symbol, q,
        .word "THEN", p, .word "ELSE", q, .word "END"]) = some z ∧
      z.number? = some (extreme larger m n) := by
  have hop : (if larger then BinaryOp.greaterThanOrEqual else .lessThanOrEqual).isComparison =
      true := by
    cases larger <;> rfl
  have htest : Fold.satisfies (if larger then .greaterThanOrEqual else .lessThanOrEqual)
      (compare m n) = decide (if larger then n ≤ m else m ≤ n) := by
    cases larger with
    | true =>
      rw [Bool.eq_iff_iff, decide_eq_true_iff, if_pos rfl, if_pos rfl,
        ← compare_ge_iff_ge]
      exact bne_iff_ne
    | false =>
      rw [Bool.eq_iff_iff, decide_eq_true_iff, if_neg Bool.false_ne_true,
        if_neg Bool.false_ne_true, ← compare_le_iff_le]
      exact bne_iff_ne
  obtain ⟨z, hz, hnumber⟩ := selected_of_number larger hx hy
  refine ⟨z, ?_, hnumber⟩
  rw [← hz, selected, hx, hy, amount?_choice hop hp hq hx hy, branchAmount?, if_pos rfl, hp, hq,
    htest]
  simp only [Option.bind_eq_bind, Option.bind_some, decide_eq_true_eq]
  exact (apply_ite some _ x y).symm

end Values

end TableQuery.Sql
