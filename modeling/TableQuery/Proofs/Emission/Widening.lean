import TableQuery.Proofs.Constant.Operands
import TableQuery.Sql.Forms

/-!
# Conversions that are looked through

Implicit conversions that lose nothing are looked through, which leaves all columns in place
(`columns_stripWidening`).  Which conversions these are depends on the storage classes of the
columns alone (`stripWidening_congr`), so in a constant they are the same in all places
(`stripWidening_of_isConst`).
-/

namespace TableQuery

/-- The storage class of a constant does not depend on those of the columns. -/
lemma Expr.inferType_of_isConst {e : Expr} (const : e.isConst = true)
    (columnType columnType' : ColumnRef → Option ColumnType) :
    e.inferType columnType' = e.inferType columnType := by
  induction e using Expr.operand_induction with
  | step e ih =>
    obtain ⟨hserver, hconst⟩ := e.isConst_eq.mp const
    have hsame : ∀ x ∈ e.operands, x.inferType columnType' = x.inferType columnType :=
      fun x hx => ih x hx (hconst x hx)
    cases e with
    | value | cast | inList => rfl
    | column | inSubquery | «exists» => cases hserver
    | unary op x =>
      have hx := hsame x List.mem_cons_self
      cases op with
      | not => rfl
      | negate | bitwiseNot => simpa only [inferType] using hx
    | binary op l r =>
      have hl := hsame l List.mem_cons_self
      have hr := hsame r (List.mem_cons_of_mem l List.mem_cons_self)
      simp only [inferType, hl, hr]
    | conditional test yes no =>
      have hyes := hsame yes (by simp [operands])
      have hno := hsame no (by simp [operands])
      simp only [inferType, hyes, hno]
    | call func args =>
      cases args with
      | nil => rfl
      | cons x args =>
        have hx := hsame x List.mem_cons_self
        simp only [inferType, hx]

namespace Sql

variable {ctx ctx' : Context}

/-- Looking through conversions leaves no column out. -/
lemma columns_stripWidening (e : Expr) : (stripWidening ctx e).columns = e.columns := by
  fun_induction stripWidening ctx e with
  | case1 e ty inner source hsource hwidens ih => exact ih
  | case2 => rfl
  | case3 e ty inner hsource ih => exact ih
  | case4 => rfl

/-- Looking through conversions leaves a constant a constant. -/
lemma isConst_stripWidening (e : Expr) : (stripWidening ctx e).isConst = e.isConst := by
  fun_induction stripWidening ctx e with
  | case1 e ty inner source hsource hwidens ih => exact ih
  | case2 => rfl
  | case3 e ty inner hsource ih => exact ih
  | case4 => rfl

/-- The same conversions are looked through where columns have the same storage classes. -/
lemma stripWidening_congr (h : ctx'.columnType = ctx.columnType) (e : Expr) :
    stripWidening ctx' e = stripWidening ctx e := by
  have htype : ctx'.inferType = ctx.inferType := by
    unfold Context.inferType
    rw [h]
  fun_induction stripWidening ctx e with
  | case1 e ty inner source hsource hwidens ih =>
    simp only [stripWidening, ih, htype, hsource, inner, hwidens, if_true]
  | case2 e ty inner source hsource hwidens ih =>
    simp only [stripWidening, ih, htype, hsource, inner, hwidens, Bool.false_eq_true, if_false]
  | case3 e ty inner hsource ih => simp only [stripWidening, ih, htype, hsource, inner]
  | case4 e hcast =>
    rw [stripWidening]
    exact hcast

/-- In a constant the same conversions are looked through everywhere. -/
lemma stripWidening_of_isConst {e : Expr} (const : e.isConst = true) (ctx ctx' : Context) :
    stripWidening ctx' e = stripWidening ctx e := by
  have htype : ∀ x : Expr, x.isConst = true → ctx'.inferType x = ctx.inferType x :=
    fun x hx => Expr.inferType_of_isConst hx _ _
  fun_induction stripWidening ctx e with
  | case1 e ty inner source hsource hwidens ih =>
    have hinner := htype inner ((isConst_stripWidening e).trans const)
    simp only [stripWidening, ih const, hinner, hsource, inner, hwidens, if_true]
  | case2 e ty inner source hsource hwidens ih =>
    have hinner := htype inner ((isConst_stripWidening e).trans const)
    simp only [stripWidening, ih const, hinner, hsource, inner, hwidens, Bool.false_eq_true,
      if_false]
  | case3 e ty inner hsource ih =>
    have hinner := htype inner ((isConst_stripWidening e).trans const)
    simp only [stripWidening, ih const, hinner, hsource, inner]
  | case4 e hcast =>
    rw [stripWidening]
    exact hcast

/-- Whether a conversion is a widening depends on the storage classes of columns alone. -/
lemma isWidening_congr (h : ctx'.columnType = ctx.columnType) (e : Expr) (ty : ColumnType)
    (implicit : Bool) : isWidening ctx' e ty implicit = isWidening ctx e ty implicit := by
  unfold isWidening Context.inferType
  rw [stripWidening_congr h, h]

end Sql

end TableQuery
