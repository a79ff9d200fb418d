import TableQuery.Proofs.Emission.Gives
import TableQuery.Sql.Forms

/-!
# Forms of expressions that are not null

Null is written in ways of its own.  Of constants that are not null it is enough to know that their
values are bound (`literal_eq`): then a comparison is one of two values, whichever of its
operands is a constant (`comparison_gives`).
-/

namespace TableQuery.Sql

variable {P P' R : Scalar → Prop} {Q : Cond → Prop} {ctx : Context} {op : BinaryOp}
  {e l r : Expr} {x y : Emit Scalar} {v : Value}

/-- What stands for a constant in a statement is what the constant folds to. -/
lemma fold_of_constant (h : constant e = .ok v) : e.fold = .ok v := by
  unfold constant at h
  cases hf : e.fold with
  | error err =>
    rw [hf] at h
    cases h
  | ok w =>
    rw [hf] at h
    cases h
    rfl

section Literals

/-- A value other than null is bound. -/
lemma literal_eq (hv : v.isNull = false) : literal v = ⟨[v], .ok (.param v)⟩ := by
  rw [literal, hv]
  rfl

/-- A literal that is not null is a parameter. -/
lemma literal_result (hv : v.isNull = false) : (literal v).result = .ok (.param v) := by
  rw [literal_eq hv]

/-- Literals that are not null are parameters. -/
lemma literals_result {vs : List Value} (h : ∀ v ∈ vs, v.isNull = false) :
    (literals vs).result = .ok (vs.map .param) := by
  induction vs with
  | nil => rfl
  | cons v vs ih =>
    have hv := literal_result (h v List.mem_cons_self)
    have hvs := ih fun w hw => h w (List.mem_cons_of_mem v hw)
    rw [literals, Emit.result_bind_ok hv, Emit.result_bind_ok hvs]
    rfl

/-- Literals that are not null give parameters. -/
lemma literals_params {vs : List Value} (h : ∀ v ∈ vs, v.isNull = false) :
    (literals vs).Gives fun xs _ => xs = vs.map .param := by
  intro xs hxs
  rw [literals_result h] at hxs
  cases hxs
  rfl

/-- What holds of the parameter of a value holds of its literal. -/
lemma literal_gives (hv : v.isNull = false) (h : P (.param v)) :
    (literal v).Gives fun x _ => P x := by
  intro x hx
  rw [literal_result hv] at hx
  cases hx
  exact h

end Literals

section Forms

/-- Whether an expression folds only to values other than null, with a property where they are
bound. -/
def FoldsPresent (P : Scalar → Prop) (e : Expr) : Prop :=
  ∀ v, e.fold = .ok v → v.isNull = false ∧ P (.param v)

/-- A property that follows from another one is had too. -/
lemma FoldsPresent.mono (h : FoldsPresent P e) (hP : ∀ x, P x → P' x) : FoldsPresent P' e :=
  fun v hv => ⟨(h v hv).1, hP _ (h v hv).2⟩

/-- The value of a constant that is not null. -/
lemma Forms.ofConstant_scalar_gives (h : FoldsPresent P e) :
    (Forms.ofConstant e).scalar.Gives fun x _ => P x := by
  refine .lift_bind fun v hv => ?_
  obtain ⟨hnull, hP⟩ := h v (fold_of_constant hv)
  exact literal_gives hnull hP

/-- Only truth values are conditions when they are constant. -/
lemma Forms.ofConstant_condition_gives (h : ∀ b, e.fold = .ok (.bool b) → Q (truth b)) :
    (Forms.ofConstant e).condition.Gives fun c _ => Q c := by
  refine .lift_bind fun v hv => ?_
  cases v with
  | bool b => exact .pure (h b (fold_of_constant hv))
  | _ => exact .fail

/-- Other values are conditions only if truth values are inferred for them. -/
lemma Forms.ofScalar_condition_gives {ty : ColumnType} (hty : ctx.inferType e = some ty)
    (hx : x.Gives fun x _ => P x)
    (h : ty = .bool → ∀ x, P x → Q (compared .equal x (.truth true))) :
    (Forms.ofScalar ctx e x).condition.Gives fun c _ => Q c := by
  unfold Forms.ofScalar
  rw [hty]
  cases hbool : ty.isBool with
  | false =>
    have hfilter : (some ty).filter (fun ty => !ty.isBool) = some ty := by
      simp [Option.filter, hbool]
    simp only [hfilter]
    exact .fail
  | true =>
    have hfilter : (some ty).filter (fun ty => !ty.isBool) = none := by
      simp [Option.filter, hbool]
    simp only [hfilter]
    exact hx.bind fun x _ hx => .pure (h (beq_iff_eq.mp hbool) x hx)

end Forms

section Operators

/-- A comparison with a constant that is not null compares two values. -/
lemma againstConstant_gives (he : FoldsPresent P' e) (hx : x.Gives fun x _ => P x)
    (h : ∀ x y, P x → P' y → Q (compared op x y)) :
    (againstConstant op x e).Gives fun c _ => Q c := by
  unfold againstConstant
  refine .lift_bind fun v hv => ?_
  obtain ⟨hnull, hP'⟩ := he v (fold_of_constant hv)
  rw [hnull, if_neg Bool.false_ne_true]
  exact hx.bind fun x _ hx => (literal_gives hnull hP').bind fun y _ hy => .pure (h x y hx hy)

/-- A comparison.  If only one operand is a constant, it is on the right. -/
lemma comparison_gives (hl : l.isConst = true → FoldsPresent P l)
    (hr : r.isConst = true → FoldsPresent P' r) (hx : x.Gives fun x _ => P x)
    (hy : y.Gives fun y _ => P' y) (hkept : ∀ x y, P x → P' y → Q (compared op x y))
    (hturned : ∀ x y, P x → P' y → Q (compared op.commute y x)) :
    (comparison op l r x y).Gives fun c _ => Q c := by
  unfold comparison
  split
  case h_1 _ hconst => exact againstConstant_gives (hr hconst) hx hkept
  case h_2 hconst _ =>
    exact againstConstant_gives (hl hconst) hy fun y x hy hx => hturned x y hx hy
  case h_3 => exact hx.bind fun x _ hx => hy.bind fun y _ hy => .pure (hkept x y hx hy)

/-- Arithmetic on other values than texts has its sign between the operands, but for the exclusive
or. -/
lemma arithmetic_gives (hcoalesce : op ≠ .coalesce) (hl : ctx.inferType l ≠ some .text)
    (hr : ctx.inferType r ≠ some .text) (hx : x.Gives fun x _ => P x)
    (hy : y.Gives fun y _ => P' y) (hgrouped : ∀ x y, P x → P' y → R (grouped op x y))
    (hexclusive : op = .exclusiveOr → ∀ x y x' y', P x → P' y → P x' → P' y' →
      R (grouped .subtract (grouped .bitwiseOr x y) (grouped .bitwiseAnd x' y'))) :
    (arithmetic ctx op l r x y).Gives fun x _ => R x := by
  have hjoin : ¬ (op = .add ∧ (ctx.inferType l = some .text ∨ ctx.inferType r = some .text)) :=
    fun h => h.2.elim hl hr
  unfold arithmetic
  refine hx.bind fun a _ ha => hy.bind fun b _ hb => ?_
  rw [if_neg hcoalesce, if_neg hjoin]
  split
  case isTrue h =>
    exact hx.bind fun a' _ ha' => hy.bind fun b' _ hb' =>
      .pure (hexclusive h.1 a b a' b' ha hb ha' hb')
  case isFalse => exact .pure (hgrouped a b ha hb)

end Operators

end TableQuery.Sql
