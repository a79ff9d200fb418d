import TableQuery.Proofs.Constant.Failures

/-!
# Folding does not depend on rows

What only a server can evaluate has no value without a row.  So folding an expression fails in one
of two ways: its evaluation fails, or it meets such an operand (`Expr.failsWith_of_fold`).  An
operand that folding meets decides nothing, since the whole then fails: an expression that folds
keeps its value when anything that only a server can evaluate is replaced in it
(`Expr.fold_of_varies`).

Folding enters the right operand of a connective, the alternative of null and the branches of a
choice only if it has to, while an expression counts as constant only if all its operands are.
Thus an expression may fold that is not constant.
-/

namespace TableQuery

/-- Two expressions that differ only where the first one has what only a server can evaluate. -/
inductive Expr.Varies : Expr → Expr → Prop
  | serverSide {e e' : Expr} : e.isServerSide = true → Varies e e'
  | value (v : Value) : Varies (.value v) (.value v)
  | unary (op : UnaryOp) {e e' : Expr} : Varies e e' → Varies (.unary op e) (.unary op e')
  | binary (op : BinaryOp) {l l' r r' : Expr} : Varies l l' → Varies r r' →
    Varies (.binary op l r) (.binary op l' r')
  | cast (ty : ColumnType) (implicit : Bool) {e e' : Expr} : Varies e e' →
    Varies (.cast e ty implicit) (.cast e' ty implicit)
  | conditional {test test' yes yes' no no' : Expr} : Varies test test' → Varies yes yes' →
    Varies no no' → Varies (.conditional test yes no) (.conditional test' yes' no')
  | call (func : Func) {args args' : List Expr} : List.Forall₂ Varies args args' →
    Varies (.call func args) (.call func args')
  | inList (members : List Value) {e e' : Expr} : Varies e e' →
    Varies (.inList e members) (.inList e' members)

/-- How folding an expression may fail: an evaluation fails, or folding meets something in the
expression that only a server can evaluate. -/
inductive Expr.FailsWith (e : Expr) : Error → Prop
  | evaluation {err : Error} : Fold.Failure err → FailsWith e err
  | serverSide {x : Expr} : x.Within e → x.isServerSide = true →
    FailsWith e (Fold.fail (.notConstant x.describe))

section Failures

variable {e : Expr} {err : Error}

/-- Folding fails where an evaluation fails, or at an operand that only a server can evaluate. -/
theorem Expr.failsWith_of_fold (h : e.fold = .error err) : e.FailsWith err := by
  obtain ⟨x, hx, hraises⟩ := exists_raises h
  cases hraises with
  | serverSide hserver => exact .serverSide hx hserver
  | unary _ h => exact .evaluation ((Fold.unary_yields _ _).of_error h)
  | binary _ _ h => exact .evaluation ((Fold.binary_yields _ _).of_error h)
  | cast _ h => exact .evaluation ((Fold.cast_yields _ _).of_error h)
  | test => exact .evaluation (.test _)
  | call hfoldable _ h => exact .evaluation ((Fold.call_yields _ hfoldable).of_error h)

/-- A failure of an evaluation is not about an expression that is no constant. -/
lemma Fold.Failure.ne_notConstant (h : Failure err) (node : String) :
    err ≠ fail (.notConstant node) := by
  rintro rfl
  cases h

/-- Folding a constant fails only where an evaluation fails. -/
lemma Expr.failure_of_isConst (hconst : e.isConst = true) (h : e.fold = .error err) :
    Fold.Failure err := by
  cases failsWith_of_fold h with
  | evaluation hfailure => exact hfailure
  | serverSide hx hserver =>
    rw [(isConst_iff e).mp hconst _ hx] at hserver
    cases hserver

end Failures

section Variation

variable {e e' : Expr} {v : Value}

/-- A call that folds. -/
lemma fold_call {func : Func} {args : List Expr} (h : (Expr.call func args).fold = .ok v) :
    func.isFoldable = true ∧
      ∃ vs, List.Forall₂ (fun e v => e.fold = .ok v) args vs ∧ Fold.call func vs = .ok v := by
  rw [Expr.fold] at h
  cases hfoldable : func.isFoldable with
  | false =>
    rw [hfoldable] at h
    cases h
  | true =>
    rw [hfoldable] at h
    obtain ⟨vs, hvs, hcall⟩ := ok_of_bind (x := foldAll args) h
    exact ⟨rfl, vs, foldAll_ok.mp hvs, hcall⟩

/-- The values of several expressions do not change if none changes. -/
lemma foldAll_of_varies {es es' : List Expr} {vs : List Value}
    (h : List.Forall₂ (fun e v => e.fold = .ok v) es vs)
    (hvaries : List.Forall₂ Expr.Varies es es')
    (hes : ∀ e ∈ es, ∀ {e' v}, e.fold = .ok v → e.Varies e' → e'.fold = .ok v) :
    List.Forall₂ (fun e v => e.fold = .ok v) es' vs := by
  induction hvaries generalizing vs with
  | nil =>
    cases h
    exact .nil
  | cons hvaries _ ih =>
    cases h with
    | cons hv hvs =>
      exact .cons (hes _ List.mem_cons_self hv hvaries)
        (ih hvs fun e he => hes e (List.mem_cons_of_mem _ he))

/-- An expression that folds keeps its value when what only a server can evaluate is replaced. -/
theorem Expr.fold_of_varies (h : e.fold = .ok v) (hvaries : e.Varies e') : e'.fold = .ok v := by
  -- Both expressions are folded along one path, and a path to a value meets no difference.
  induction e using Expr.operand_induction generalizing v e' with
  | step e ih =>
    cases hvaries with
    | serverSide hserver =>
      rw [fold_serverSide hserver] at h
      cases h
    | value w => exact h
    | @unary op x x' hx =>
      obtain ⟨a, ha, hv⟩ := fold_unary h
      rw [fold, ih x (by simp [operands]) ha hx]
      exact hv
    | @cast ty implicit x x' hx =>
      obtain ⟨a, ha, hv⟩ := fold_cast h
      rw [fold, ih x (by simp [operands]) ha hx]
      exact hv
    | @inList members x x' hx =>
      obtain ⟨a, ha, rfl⟩ := fold_inList h
      rw [fold, ih x (by simp [operands]) ha hx]
      rfl
    | @binary op l l' r r' hl hr =>
      obtain ⟨a, ha, hd | ⟨hd, b, hb, hv⟩⟩ := fold_binary h
      · -- The right operand is not entered, so it need not fold.
        rw [fold_binary_eq (ih l (by simp [operands]) ha hl), hd]
      · rw [fold_binary_of_both (ih l (by simp [operands]) ha hl) hd
          (ih r (by simp [operands]) hb hr)]
        exact hv
    | @conditional test test' yes yes' no no' htest hyes hno =>
      obtain ⟨b, hb, hv⟩ := fold_conditional h
      rw [fold, ih test (by simp [operands]) hb htest]
      cases b with
      | true => exact ih yes (by simp [operands]) hv hyes
      | false => exact ih no (by simp [operands]) hv hno
    | call func hargs =>
      obtain ⟨hfoldable, vs, hvs, hcall⟩ := fold_call h
      have hvs' := foldAll_ok.mpr (foldAll_of_varies hvs hargs ih)
      rw [fold, if_pos hfoldable, hvs']
      exact hcall

end Variation

/-- Folding never depends on a row: an expression is constant if nothing stands in it that only a
server can evaluate; then folding fails only where an evaluation fails; and an expression that
folds, constant or not, keeps its value when what only a server can evaluate is replaced in it. -/
theorem Expr.fold_independent (e : Expr) :
    (e.isConst = true ↔ ∀ x : Expr, x.Within e → x.isServerSide = false) ∧
      (e.isConst = true → ∀ err, e.fold = .error err →
        Fold.Failure err ∧ ∀ node, err ≠ Fold.fail (.notConstant node)) ∧
      ∀ v e', e.fold = .ok v → e.Varies e' → e'.fold = .ok v := by
  refine ⟨isConst_iff e, ?failures, ?variation⟩
  case failures =>
    intro hconst err h
    have hfailure := failure_of_isConst hconst h
    exact ⟨hfailure, hfailure.ne_notConstant⟩
  case variation => exact fun v e' => fold_of_varies

/-- A quotient by zero is constant and fails to evaluate, and a disjunction that its left operand
decides has the same value whatever column stands on its right. -/
theorem Expr.fold_independent_quotient_disjunction :
    Fold.Failure (Fold.fail .divisionByZero) ∧
      (binary .or (.value (.bool true)) (.column ⟨⟨0⟩, 0⟩)).isConst = false ∧
      (binary .or (.value (.bool true)) (.value .null)).fold = .ok (.bool true) := by
  have hquotient := (fold_independent (binary .divide (.value (.int 1)) (.value (.int 0)))).2.1
    rfl (Fold.fail .divisionByZero) rfl
  have hdisjunction := (fold_independent
    (binary .or (.value (.bool true)) (.column ⟨⟨0⟩, 0⟩))).2.2 (.bool true)
    (binary .or (.value (.bool true)) (.value .null)) rfl (.binary .or (.value _) (.serverSide rfl))
  exact ⟨hquotient.1, rfl, hdisjunction⟩

end TableQuery
