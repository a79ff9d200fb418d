import Mathlib.Tactic.Lemma
import TableQuery.Expr.Fold
import TableQuery.Proofs.Meaning.Folding

/-!
# Evaluation of constants

What the operators and functions of constants give: a value of a certain class, or a failure of
evaluation (`Fold.Yields`).  The failures are operands of the wrong class, overflow, division by
zero, and conversions that are not possible (`Fold.Failure`); that an expression is no constant is
not among them.  There is one lemma for each operation.
-/

namespace TableQuery

/-- Whether arithmetic on two values takes an enumeration for a float although no float takes
part. -/
def Value.mixesEnum : Value → Value → Bool
  | .enum _, .enum _ | .enum _, .int _ | .int _, .enum _ => true
  | _, _ => false

namespace Fold

/-- The failures of an evaluation. -/
inductive Failure : Error → Prop
  | test (kind : Option ColumnType) : Failure (fail (.testNotBool kind))
  | unary (op : UnaryOp) (kind : Option ColumnType) : Failure (fail (.unary op kind))
  | binary (op : BinaryOp) (l r : Option ColumnType) : Failure (fail (.binary op l r))
  | receiver (func : Func) (kind : Option ColumnType) : Failure (fail (.receiver func kind))
  | overflow : Failure (fail .overflow)
  | divisionByZero : Failure (fail .divisionByZero)
  | conversion (kind : Option ColumnType) (ty : ColumnType) : Failure (fail (.conversion kind ty))
  | identifier (fault : Guid.Fault) : Failure { cause := .guid fault }

/-- Whether an evaluation gives something with a property, or fails. -/
def Yields {α : Type} (P : α → Prop) : Except Error α → Prop
  | .ok a => P a
  | .error e => Failure e

namespace Yields

variable {α β : Type} {P : α → Prop} {Q : β → Prop} {x : Except Error α}

/-- What is given has the property. -/
lemma of_ok {a : α} (hx : Yields P x) (h : x = .ok a) : P a := by
  rw [h] at hx
  exact hx

/-- An error that occurs is one of evaluation. -/
lemma of_error {e : Error} (hx : Yields P x) (h : x = .error e) : Failure e := by
  rw [h] at hx
  exact hx

/-- A property that follows from another one is had too. -/
lemma mono {R : α → Prop} (hx : Yields P x) (h : ∀ a, P a → R a) : Yields R x := by
  cases x with
  | ok a => exact h a hx
  | error e => exact hx

/-- A function after an evaluation gives what it gives for what is evaluated. -/
lemma map {f : α → β} (hx : Yields P x) (hf : ∀ a, P a → Q (f a)) : Yields Q (x.map f) := by
  cases x with
  | ok a => exact hf a hx
  | error e => exact hx

/-- An evaluation after another one goes on from what that one gives. -/
lemma bind {f : α → Except Error β} (hx : Yields P x) (hf : ∀ a, P a → Yields Q (f a)) :
    Yields Q (x >>= f) := by
  cases x with
  | ok a => exact hf a hx
  | error e => exact hx

/-- A choice of two evaluations gives what each of them gives where it is taken. -/
lemma ite {p : Prop} [Decidable p] {y : Except Error α} (hx : p → Yields P x)
    (hy : ¬p → Yields P y) : Yields P (if p then x else y) := by
  by_cases h : p
  · rw [if_pos h]
    exact hx h
  · rw [if_neg h]
    exact hy h

end Yields

/-- The value of an operator between two values, by the classes of these. -/
inductive BinaryResult (op : BinaryOp) (l r : Value) : Value → Prop
  | null : BinaryResult op l r .null
  | left : op = .coalesce → BinaryResult op l r l
  | right : op = .coalesce → l.isNull = true → BinaryResult op l r r
  | truth (b : Bool) : op.isPredicate = true → BinaryResult op l r (.bool b)
  | text (s : String) : op = .add → isText l = true ∨ isText r = true →
    BinaryResult op l r (.text s)
  | int (n : Int64) : op.isPredicate = false → op ≠ .coalesce → l.type? = some .int →
    r.type? = some .int → BinaryResult op l r (.int n)
  | float (x : Float) {tl tr : ColumnType} : op.isArithmetic = true → l.type? = some tl →
    r.type? = some tr → tl.isNumeric = true → tr.isNumeric = true →
    tl = .float ∨ tr = .float ∨ l.mixesEnum r = true → BinaryResult op l r (.float x)
  | bits (b : Bool) : op.isBitwise = true → l.type? = some .bool → r.type? = some .bool →
    BinaryResult op l r (.bool b)

section Operations

variable {op : BinaryOp} (l r v : Value)

/-- A conversion to an identifier gives something or fails. -/
lemma toGuid_yields (formats : Formats) : Yields (fun _ => True) (v.toGuid formats) := by
  unfold Value.toGuid
  split
  · exact trivial
  · split
    · exact trivial
    · exact .identifier _
  · exact .conversion _ _

/-- A converted value is of the class it is converted to, and null stays null. -/
lemma cast_yields (ty : ColumnType) (formats : Formats := .standard) :
    Yields (fun w => w.type? = if v.isNull then none else some ty) (v.cast ty formats) := by
  unfold Value.cast
  cases v.isNull with
  | true => exact rfl
  | false =>
    cases ty with
    | guid => exact (toGuid_yields v formats).map fun _ _ => rfl
    | _ =>
      -- Every other conversion looks for a counterpart of the value.
      simp only [Bool.false_eq_true, if_false]
      split
      · exact rfl
      · exact Failure.conversion v.type? _

/-- A number that must be exact gives an integer or fails. -/
lemma exact_yields (n : Int) : Yields (fun w => w.type? = some .int) (exact n) := by
  unfold exact
  split
  · exact rfl
  · exact .overflow

/-- An operator with one operand keeps the class of its operand; a negation has a truth value. -/
lemma unary_yields (op : UnaryOp) :
    Yields (fun w => w.type? = v.type? ∧ (op = .not → v.isNull = true ∨ v.type? = some .bool))
      (unary op v) := by
  unfold unary
  split
  · exact ⟨rfl, fun _ => .inl rfl⟩
  · exact ⟨rfl, fun _ => .inr rfl⟩
  · exact (exact_yields _).mono fun w hw => ⟨hw, nofun⟩
  · exact ⟨rfl, nofun⟩
  · exact ⟨rfl, nofun⟩
  · exact .unary _ _

/-- A comparison gives a truth value or fails. -/
lemma comparison_yields : Yields (fun w => ∃ b, w = .bool b) (comparison op l r) := by
  unfold comparison
  split
  · exact ⟨_, rfl⟩
  · split
    · exact ⟨_, rfl⟩
    · split
      · exact ⟨_, rfl⟩
      · split
        · exact ⟨_, rfl⟩
        · exact .binary _ _ _

/-- A connective gives a truth value or fails. -/
lemma logical_yields : Yields (fun w => ∃ b, w = .bool b) (logical op l r) := by
  unfold logical
  split
  · exact ⟨_, rfl⟩
  · exact .binary _ _ _

/-- An operand of a concatenation is turned into text, or fails. -/
lemma concatText_yields : Yields (fun _ => True) (concatText v) := by
  refine (cast_yields v .text).bind fun w _ => ?_
  cases w with
  | _ => exact trivial

/-- A concatenation gives a text or fails. -/
lemma concat_yields : Yields (fun w => ∃ s, w = .text s) (concat l r) :=
  (concatText_yields l).bind fun _ _ => (concatText_yields r).bind fun _ _ => ⟨_, rfl⟩

/-- Arithmetic on integers gives an integer or fails. -/
lemma intArithmetic_yields (a b : Int64) :
    Yields (fun w => w.type? = some .int) (intArithmetic op a b) := by
  cases op with
  | add | subtract | multiply => exact exact_yields _
  | divide => exact .ite (fun _ => Failure.divisionByZero) fun _ => exact_yields _
  | modulo =>
    exact .ite (fun _ => Failure.divisionByZero) fun _ =>
      (exact_yields _).bind fun _ _ => exact_yields _
  | _ => exact Failure.binary _ _ _

/-- Arithmetic on integers gives an integer; as soon as another number takes part, it gives a
float. -/
lemma arithmetic_yields (hop : op.isArithmetic = true) :
    Yields (BinaryResult op l r) (arithmetic op l r) := by
  have hplain : op.isPredicate = false ∧ op ≠ .coalesce := by
    cases op with
    | add | subtract | multiply | divide | modulo => exact ⟨rfl, nofun⟩
    | _ => cases hop
  cases l with
  | null => exact .null
  | int a =>
    cases r with
    | null => exact .null
    | int b =>
      refine (intArithmetic_yields a b).mono fun w hw => ?_
      obtain ⟨n, rfl⟩ := Value.int_of_type? hw
      exact .int n hplain.1 hplain.2 rfl rfl
    | float y => exact .float _ hop rfl rfl rfl rfl (.inr (.inl rfl))
    | enum b => exact .float _ hop rfl rfl rfl rfl (.inr (.inr rfl))
    | _ => exact Failure.binary _ _ _
  | float x =>
    cases r with
    | null => exact .null
    | int b | float y | enum b => exact .float _ hop rfl rfl rfl rfl (.inl rfl)
    | _ => exact Failure.binary _ _ _
  | enum a =>
    cases r with
    | null => exact .null
    | int b | enum b => exact .float _ hop rfl rfl rfl rfl (.inr (.inr rfl))
    | float y => exact .float _ hop rfl rfl rfl rfl (.inr (.inl rfl))
    | _ => exact Failure.binary _ _ _
  | _ =>
    cases r with
    | null => exact .null
    | _ => exact Failure.binary _ _ _

/-- A bitwise operator gives what such operators give, or fails. -/
lemma bitwise_yields (hop : op.isBitwise = true) :
    Yields (BinaryResult op l r) (bitwise op l r) := by
  have hplain : op.isPredicate = false ∧ op ≠ .coalesce := by
    cases op with
    | bitwiseAnd | bitwiseOr | exclusiveOr => exact ⟨rfl, nofun⟩
    | _ => cases hop
  unfold bitwise
  split
  · exact .null
  · exact .null
  · exact .int _ hplain.1 hplain.2 rfl rfl
  · exact .bits _ hop rfl rfl
  · exact Failure.binary _ _ _

/-- An operator gives a value of the class that the classes of its operands say. -/
theorem binary_yields : Yields (BinaryResult op l r) (binary op l r) := by
  unfold binary
  refine .ite (fun hcoalesce => ?coalesce) fun hcoalesce =>
    .ite (fun hlogical => ?logical) fun hlogical =>
    .ite (fun hcomparison => ?comparison) fun hcomparison =>
    .ite (fun htext => ?text) fun _ =>
    .ite (arithmetic_yields l r) fun harithmetic => bitwise_yields l r ?bitwise
  case coalesce =>
    cases hnull : l.isNull with
    | true => exact .right hcoalesce hnull
    | false => exact .left hcoalesce
  case logical =>
    refine (logical_yields l r).mono ?_
    rintro w ⟨b, rfl⟩
    exact .truth b (by rw [BinaryOp.isPredicate, hlogical, Bool.true_or])
  case comparison =>
    refine (comparison_yields l r).mono ?_
    rintro w ⟨b, rfl⟩
    exact .truth b (by rw [BinaryOp.isPredicate, hcomparison, Bool.or_true])
  case text =>
    refine (concat_yields l r).mono ?_
    rintro w ⟨s, rfl⟩
    exact .text s htext.1 htext.2
  case bitwise =>
    cases op with
    | bitwiseAnd | bitwiseOr | exclusiveOr => rfl
    | and | or => exact absurd rfl hlogical
    | coalesce => exact absurd rfl hcoalesce
    | add | subtract | multiply | divide | modulo => exact absurd rfl harithmetic
    | _ => exact absurd rfl hcomparison

/-- A foldable function gives null or a value of the class of its results. -/
lemma call_yields {func : Func} (args : List Value) (h : func.isFoldable = true) :
    Yields (fun w => w.isNull = true ∨ ∀ kind, w.type? = func.resultType kind)
      (call func args) := by
  unfold call
  split
  case isTrue hconcat =>
    subst hconcat
    refine (concat_yields _ _).mono ?_
    rintro w ⟨s, rfl⟩
    exact .inr fun _ => rfl
  case isFalse hconcat =>
    dsimp only
    split
    · exact .inl rfl
    · cases func with
      | toLower | toUpper | trim | trimStart | trimEnd | length => exact .inr fun _ => rfl
      | concat => exact absurd rfl hconcat
      | _ => cases h
    · exact Failure.receiver _ _

end Operations

end Fold

end TableQuery
