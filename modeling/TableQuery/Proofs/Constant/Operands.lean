import Mathlib.Data.List.Forall2
import Mathlib.Tactic.Lemma
import TableQuery.Expr.Fold
import TableQuery.Proofs.Emission.Gives

/-!
# The operands of expressions

What an expression is made of (`Expr.operands`), and what stands in it at any depth (`Expr.Within`).
The query of a subquery is not entered: a subquery is evaluated by a server as a whole, and folding
fails at it.

Whatever folding does, it does by the operands, so statements about folding are proved by induction
on them (`Expr.operand_induction`).  An expression is constant if nothing stands in it that only a
server can evaluate (`Expr.isConst_iff`).
-/

namespace TableQuery

/-- The expressions that an expression is made of, from left to right. -/
def Expr.operands : Expr → List Expr
  | .value _ | .column _ | .exists .. => []
  | .unary _ e | .cast e _ _ | .inList e _ | .inSubquery e _ => [e]
  | .binary _ l r => [l, r]
  | .conditional test yes no => [test, yes, no]
  | .call _ args => args

/-- Whether an expression is another one or stands in it. -/
inductive Expr.Within (x : Expr) : Expr → Prop
  | self : Within x x
  | operand {y e : Expr} : y ∈ e.operands → Within x y → Within x e

/-- Whether only a server can evaluate an expression, whatever its operands are: a column, a
subquery, or a call of a function that is not foldable. -/
def Expr.isServerSide : Expr → Bool
  | .column _ | .inSubquery .. | .exists .. => true
  | .call func _ => !func.isFoldable
  | _ => false

mutual

/-- What is true of an expression whenever it is true of its operands is true of every
expression. -/
theorem Expr.operand_induction {motive : Expr → Prop}
    (step : ∀ e, (∀ x ∈ e.operands, motive x) → motive e) : (e : Expr) → motive e
  | .value v => step (.value v) nofun
  | .column ref => step (.column ref) nofun
  | .unary op e => step (.unary op e) <|
    List.forall_mem_singleton.mpr (Expr.operand_induction step e)
  | .binary op l r => step (.binary op l r) <|
    List.forall_mem_cons.mpr ⟨Expr.operand_induction step l,
      List.forall_mem_singleton.mpr (Expr.operand_induction step r)⟩
  | .cast e ty implicit => step (.cast e ty implicit) <|
    List.forall_mem_singleton.mpr (Expr.operand_induction step e)
  | .conditional test yes no => step (.conditional test yes no) <|
    List.forall_mem_cons.mpr ⟨Expr.operand_induction step test,
      List.forall_mem_cons.mpr ⟨Expr.operand_induction step yes,
        List.forall_mem_singleton.mpr (Expr.operand_induction step no)⟩⟩
  | .call func args => step (.call func args) (listOperand_induction step args)
  | .inList e members => step (.inList e members) <|
    List.forall_mem_singleton.mpr (Expr.operand_induction step e)
  | .inSubquery e q => step (.inSubquery e q) <|
    List.forall_mem_singleton.mpr (Expr.operand_induction step e)
  | .exists q condition => step (.exists q condition) nofun

/-- What is true of an expression whenever it is true of its operands is true of several
expressions. -/
theorem listOperand_induction {motive : Expr → Prop}
    (step : ∀ e, (∀ x ∈ e.operands, motive x) → motive e) : (es : List Expr) → ∀ x ∈ es, motive x
  | [] => nofun
  | e :: es => List.forall_mem_cons.mpr
    ⟨Expr.operand_induction step e, listOperand_induction step es⟩

end

section Within

variable {e : Expr} {P : Expr → Prop}

/-- What stands in an operand stands in the expression. -/
lemma Expr.forall_within :
    (∀ x, x.Within e → P x) ↔ P e ∧ ∀ y ∈ e.operands, ∀ x : Expr, x.Within y → P x := by
  constructor
  case mp =>
    intro h
    exact ⟨h e .self, fun y hy x hx => h x (.operand hy hx)⟩
  case mpr =>
    rintro ⟨he, hoperands⟩ x hx
    cases hx with
    | self => exact he
    | operand hy hx => exact hoperands _ hy x hx

section Forms

variable {l r test yes no : Expr}

/-- Within a value is only the value. -/
@[simp] lemma Expr.forall_within_value {v : Value} :
    (∀ x, x.Within (value v) → P x) ↔ P (value v) := by
  rw [forall_within]
  simp [operands]

/-- Within an operator of one operand are itself and what is within the operand. -/
@[simp] lemma Expr.forall_within_unary {op : UnaryOp} :
    (∀ x, x.Within (unary op e) → P x) ↔ P (unary op e) ∧ ∀ x : Expr, x.Within e → P x := by
  rw [forall_within]
  simp [operands]

/-- Within an operator of two operands are itself and what is within either of them. -/
@[simp] lemma Expr.forall_within_binary {op : BinaryOp} :
    (∀ x, x.Within (binary op l r) → P x) ↔
      P (binary op l r) ∧ (∀ x : Expr, x.Within l → P x) ∧ ∀ x : Expr, x.Within r → P x := by
  rw [forall_within]
  simp [operands]

/-- Within a choice are itself and what is within its test and its two results. -/
@[simp] lemma Expr.forall_within_conditional :
    (∀ x, x.Within (conditional test yes no) → P x) ↔
      P (conditional test yes no) ∧ (∀ x : Expr, x.Within test → P x) ∧
        (∀ x : Expr, x.Within yes → P x) ∧ ∀ x : Expr, x.Within no → P x := by
  rw [forall_within]
  simp [operands]

end Forms

end Within

section Constants

variable {es : List Expr}

/-- Several expressions are constant if each is. -/
lemma areConst_iff : Expr.areConst es = true ↔ ∀ e ∈ es, e.isConst = true := by
  induction es with
  | nil => simp [Expr.areConst]
  | cons e es ih => rw [Expr.areConst, Bool.and_eq_true, ih, List.forall_mem_cons]

/-- An expression is constant if it can be evaluated without a server and its operands are
constant. -/
lemma Expr.isConst_eq (e : Expr) :
    e.isConst = true ↔ e.isServerSide = false ∧ ∀ x ∈ e.operands, x.isConst = true := by
  cases e with
  | call func args =>
    rw [isConst, Bool.and_eq_true, areConst_iff, isServerSide, operands, Bool.not_eq_false']
  | _ => simp [isConst, isServerSide, operands, and_assoc]

/-- An expression is constant if nothing stands in it that only a server can evaluate. -/
theorem Expr.isConst_iff (e : Expr) :
    e.isConst = true ↔ ∀ x : Expr, x.Within e → x.isServerSide = false := by
  induction e using Expr.operand_induction with
  | step e ih =>
    rw [isConst_eq, forall_within]
    refine and_congr_right fun _ => forall₂_congr fun x hx => ih x hx

end Constants

section Lists

variable {es : List Expr}

/-- Several expressions fold to values if each folds to its own. -/
lemma foldAll_ok {vs : List Value} :
    foldAll es = .ok vs ↔ List.Forall₂ (fun e v => e.fold = .ok v) es vs := by
  constructor
  case mp =>
    intro h
    induction es generalizing vs with
    | nil =>
      cases h
      exact .nil
    | cons e es ih =>
      rw [foldAll] at h
      obtain ⟨v, hv, h⟩ := ok_of_bind h
      obtain ⟨ws, hws, h⟩ := ok_of_bind h
      cases h
      exact .cons hv (ih hws)
  case mpr =>
    intro h
    induction h with
    | nil => rfl
    | cons hv _ ih =>
      rw [foldAll, hv, ih]
      rfl

/-- Several expressions fail to fold where one of them does. -/
lemma foldAll_error {err : Error} (h : foldAll es = .error err) :
    ∃ e ∈ es, e.fold = .error err := by
  induction es with
  | nil => cases h
  | cons e es ih =>
    rw [foldAll] at h
    obtain h | ⟨v, -, h⟩ := error_of_bind h
    · exact ⟨e, List.mem_cons_self, h⟩
    · obtain h | ⟨vs, -, h⟩ := error_of_bind h
      · obtain ⟨x, hx, hfail⟩ := ih h
        exact ⟨x, List.mem_cons_of_mem e hx, hfail⟩
      · cases h

end Lists

end TableQuery
