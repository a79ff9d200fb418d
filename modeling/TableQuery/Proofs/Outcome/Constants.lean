import TableQuery.Proofs.Emission.Widening
import TableQuery.Proofs.Function.Arity

/-!
# Constants that are folded

A constant that is a condition, one side of a comparison or a pattern that is read is folded as it
stands; any other constant is folded without the implicit conversions around it that lose nothing.
If it has no value, then the step that has asked for the value fails with the error that the
constant has none, whatever has kept it from being folded (`surfaces_of_fold`).

A constant is folded for an expression that is not constant itself (`FoldedFor`), which cannot be
written then if the constant has no value (`FoldedFor.needs`).  Neither can anything in which the
expression stands, at any depth.
-/

namespace TableQuery

/-- A constant has a value. -/
def Expr.HasValue (e : Expr) : Prop := ∃ v, e.fold = .ok v

namespace Sql

open Emit (Needs)

variable {ctx ctx' : Context} {d : Dialect} {e c whole : Expr} {failure : Error} {func : Func}

section Steps

/-- A constant without a value fails in both forms. -/
lemma Forms.ofConstant_fails (h : e.fold = .error failure) :
    (ofConstant e).condition.result = .error (unfolded e failure) ∧
      (ofConstant e).scalar.result = .error (unfolded e failure) := by
  simp only [ofConstant, constant_of_fold h]
  exact ⟨rfl, rfl⟩

/-- As a condition, a constant is folded whole. -/
lemma formsOf_condition_of_isConst (ctx : Context) (const : e.isConst = true) :
    (formsOf e ctx).condition = (Forms.ofConstant e).condition := by
  cases e with
  | value v => rfl
  | column | inSubquery | «exists» => cases const
  | cast e ty implicit =>
    simp only [formsOf, Forms.unlessConstant, const, if_true]
    split <;> rfl
  | _ => simp only [formsOf, Forms.unlessConstant, const, if_true]

/-- As a value, a constant is folded without the implicit conversions around it that lose
nothing. -/
lemma formsOf_scalar_of_isConst (ctx : Context) (const : e.isConst = true) :
    (formsOf e ctx).scalar = (Forms.ofConstant (stripWidening ctx e)).scalar := by
  have hwhole : ∀ {e ty implicit}, (Expr.cast e ty implicit).isConst = true →
      isWidening ctx e ty implicit = false →
        (formsOf (.cast e ty implicit) ctx).scalar =
          (Forms.ofConstant (.cast e ty implicit)).scalar := by
    intro e ty implicit const h
    simp only [formsOf, Forms.unlessConstant, const, h, Bool.false_eq_true, if_true, if_false]
  -- Along the conversions that are stripped, until a conversion is kept or there is none.
  fun_induction stripWidening ctx e with
  | case1 e ty inner source hsource hwidens ih =>
    have h : isWidening ctx e ty true = true := by
      simp only [isWidening, hsource, inner, hwidens, Bool.true_and]
    simp only [formsOf, h, if_true]
    exact ih const
  | case2 e ty inner source hsource hwidens ih =>
    refine hwhole const ?_
    simpa only [isWidening, hsource, inner, Bool.true_and, Bool.not_eq_true] using hwidens
  | case3 e ty inner hsource ih =>
    have h : isWidening ctx e ty true = true := by
      simp only [isWidening, hsource, inner, Bool.true_and]
    simp only [formsOf, h, if_true]
    exact ih const
  | case4 e hcast =>
    cases e with
    | value v => rfl
    | column | inSubquery | «exists» => cases const
    | cast e ty implicit =>
      cases implicit with
      | false => exact hwhole const rfl
      | true => exact absurd rfl (hcast e ty)
    | _ => simp only [formsOf, Forms.unlessConstant, const, if_true]

/-- Whatever step folds a constant, it fails with the error that the constant has no value, which
has a cause. -/
structure Surfaces (e : Expr) (failure : Error) : Prop where
  /-- The constant is a condition. -/
  condition (ctx : Context) :
    (formsOf e ctx).condition.result = .error (unfolded e failure)
  /-- The constant is what is left of a value without the implicit conversions that lose nothing. -/
  scalar (ctx : Context) {e' : Expr} (const : e'.isConst = true) (h : stripWidening ctx e' = e) :
    (formsOf e' ctx).scalar.result = .error (unfolded e failure)
  /-- The constant is one side of a comparison. -/
  compared (op : BinaryOp) (x : Emit Scalar) :
    (againstConstant op x e).result = .error (unfolded e failure)
  /-- The constant is a pattern. -/
  pattern (func : Func) : (Call.constantText? func e).result = .error (unfolded e failure)
  /-- The constant is the place where a part of a text begins. -/
  place (x : Emit Scalar) : (Call.placeFromOne ⟨e, x⟩).result = .error (unfolded e failure)

/-- A constant that cannot be folded makes every step fail that folds it. -/
theorem surfaces_of_fold (const : e.isConst = true) (h : e.fold = .error failure) :
    Surfaces e failure where
  condition ctx := by
    rw [formsOf_condition_of_isConst ctx const]
    exact (Forms.ofConstant_fails h).1
  scalar ctx e' const' he := by
    subst he
    rw [formsOf_scalar_of_isConst ctx const']
    exact (Forms.ofConstant_fails h).2
  compared op x := by
    unfold againstConstant
    rw [constant_of_fold h]
    rfl
  pattern func := by
    rw [Call.constantText?, if_pos const, constant_of_fold h]
    rfl
  place x := by
    rw [Call.placeFromOne, if_pos const, constant_of_fold h]
    rfl

end Steps

section Needs

/-- What stands for a constant in a statement is its value. -/
lemma hasValue_of_constant {v : Value} (h : constant e = .ok v) : e.HasValue :=
  ⟨v, fold_of_constant h⟩

/-- A constant that is a condition needs a value. -/
lemma condition_needs_value (ctx : Context) (const : e.isConst = true) :
    (formsOf e ctx).condition.Needs e.HasValue := by
  rw [formsOf_condition_of_isConst ctx const]
  exact .lift_bind fun _ hv => Needs.of_true (hasValue_of_constant hv)

/-- A constant that is a value needs one, wherever it stands. -/
lemma scalar_needs_value (ctx ctx' : Context) (const : e.isConst = true) :
    (formsOf e ctx').scalar.Needs (stripWidening ctx e).HasValue := by
  rw [formsOf_scalar_of_isConst ctx' const, stripWidening_of_isConst const ctx ctx']
  exact .lift_bind fun _ hv => Needs.of_true (hasValue_of_constant hv)

/-- A comparison with a constant needs the value of the constant. -/
lemma againstConstant_needs_value {op : BinaryOp} {x : Emit Scalar} :
    (againstConstant op x e).Needs e.HasValue :=
  .lift_bind fun _ hv => Needs.of_true (hasValue_of_constant hv)

/-- The filter of a query that is a constant needs a value. -/
lemma queryFilter_needs_value {q : Query} (hq : q.predicate = some e) (const : e.isConst = true) :
    NeedsIfPresent (queryFilter q ctx) e.HasValue := by
  obtain ⟨table, source, predicate, _⟩ := q
  cases hq
  exact condition_needs_value ctx const

end Needs

/-- The constants that are folded for an expression that is not constant. -/
inductive FoldedFor (ctx : Context) : Expr → Expr → Prop
  /-- Conditions that are connected and the sides of comparisons are folded as they stand. -/
  | left {op l r} : op.isPredicate = true → l.isConst = true → FoldedFor ctx l (.binary op l r)
  | right {op l r} : op.isPredicate = true → r.isConst = true → FoldedFor ctx r (.binary op l r)
  | leftValue {op l r} : op.isPredicate = false → l.isConst = true →
    FoldedFor ctx (stripWidening ctx l) (.binary op l r)
  | rightValue {op l r} : op.isPredicate = false → r.isConst = true →
    FoldedFor ctx (stripWidening ctx r) (.binary op l r)
  | test {test yes no} : test.isConst = true → FoldedFor ctx test (.conditional test yes no)
  | yes {test yes no} : yes.isConst = true →
    FoldedFor ctx (stripWidening ctx yes) (.conditional test yes no)
  | no {test yes no} : no.isConst = true →
    FoldedFor ctx (stripWidening ctx no) (.conditional test yes no)
  /-- A pattern that is read and the place where a part of a text begins. -/
  | read {func x e args} : func.readsSecond = true → e.isConst = true →
    FoldedFor ctx e (.call func (x :: e :: args))
  /-- Any other argument, unless the call tests for the empty text at the end. -/
  | argument {func i e} {args : List Expr} : args[i]? = some e → func.readsSecond = false ∨ i ≠ 1 →
    isEmptySuffix func args = false → e.isConst = true →
    FoldedFor ctx (stripWidening ctx e) (.call func args)
  | member {e q} : e.isConst = true → FoldedFor ctx (stripWidening ctx e) (.inSubquery e q)
  | filter {e p} {q : Query} : q.predicate = some p → p.isConst = true →
    FoldedFor ctx p (.inSubquery e q)
  | existing {condition p} {q : Query} : q.predicate = some p → p.isConst = true →
    FoldedFor ctx p (.exists q condition)
  | condition {q p} : p.isConst = true → FoldedFor ctx p (.exists q (some p))

namespace Call

variable {args : List Argument}

/-- What is read of the second argument is its value. -/
lemma Reads.hasValue {x : Expr} {es : List Expr} (h : Reads func (x :: e :: es))
    (hadmits : func.admits (x :: e :: es).length = true) (hsecond : func.readsSecond = true)
    (const : e.isConst = true) : e.HasValue := by
  cases func with
  | substring =>
    have hplace : ReadsPlace e := h
    obtain ⟨n, m, hvalue, -⟩ := hplace const
    exact hasValue_of_constant hvalue
  | startsWith | startsWithIgnoreCase | endsWith | endsWithIgnoreCase =>
    have htext : ReadsText e := by
      cases es with
      | nil => exact h
      | cons y ys => simp [Func.admits, Func.arity] at hadmits
    obtain ⟨s, hvalue⟩ := htext const
    exact hasValue_of_constant hvalue
  | _ => cases hsecond

/-- An argument that is not read is written, unless the call tests for the empty text at the end. -/
lemma mem_written_of_getElem? {a : Argument} {i : Nat}
    (hempty : isEmptySuffix func (args.map Argument.expr) = false) (ha : args[i]? = some a)
    (hunread : func.readsSecond = false ∨ i ≠ 1) : a ∈ written func args := by
  rw [written, hempty, if_neg Bool.false_ne_true]
  split
  case isTrue hread =>
    have hsecond : func.readsSecond = true := (Bool.and_eq_true_iff.mp hread).1
    have hi : i ≠ 1 := hunread.resolve_left (by rw [hsecond]; exact Bool.noConfusion)
    exact List.mem_eraseIdx_iff_getElem?.mpr ⟨i, hi, ha⟩
  case isFalse => exact List.mem_of_getElem? ha

end Call

/-- A call needs the value of a constant argument that it reads. -/
lemma formsOf_call_needs_read {x : Expr} {args : List Expr} (hsecond : func.readsSecond = true)
    (const : e.isConst = true) (hcall : (Expr.call func (x :: e :: args)).isConst = false) :
    (formsOf (.call func (x :: e :: args)) ctx).Needs e.HasValue := by
  refine formsOf_call_needs_asked hcall fun hasks => ?_
  obtain ⟨hadmits, hreads, -⟩ := hasks
  rw [argumentForms_expr] at hreads
  rw [argumentForms_eq_map, List.length_map] at hadmits
  exact hreads.hasValue hadmits hsecond const

/-- A call needs the value of a constant argument that it writes. -/
lemma formsOf_call_needs_written {args : List Expr} {i : Nat} (he : args[i]? = some e)
    (hunread : func.readsSecond = false ∨ i ≠ 1) (hempty : isEmptySuffix func args = false)
    (const : e.isConst = true) (hcall : (Expr.call func args).isConst = false) :
    (formsOf (.call func args) ctx').Needs (stripWidening ctx e).HasValue := by
  refine formsOf_call_needs_asked hcall fun hasks => ?_
  have ha : (argumentForms args ctx')[i]? = some ⟨e, (formsOf e ctx').scalar⟩ := by
    rw [argumentForms_eq_map, List.getElem?_map, he]
    rfl
  have hwritten := Call.mem_written_of_getElem? (by rwa [argumentForms_expr]) ha hunread
  obtain ⟨x, hx⟩ := hasks.2.2 _ hwritten
  exact scalar_needs_value ctx ctx' const x hx

section Binary

variable {op : BinaryOp} {l r : Expr} {P : Prop}

/-- One side of a comparison that is constant needs a value, if the other is not constant. -/
lemma comparison_needs_value {x y : Emit Scalar} (hsides : (l.isConst && r.isConst) = false) :
    (comparison op l r x y).Needs
      ((l.isConst = true → l.HasValue) ∧ (r.isConst = true → r.HasValue)) := by
  unfold comparison
  cases hl : l.isConst with
  | true =>
    have hr : r.isConst = false := by rwa [hl, Bool.true_and] at hsides
    rw [hr]
    exact againstConstant_needs_value.mono fun h => ⟨fun _ => h, nofun⟩
  | false =>
    cases hr : r.isConst with
    | true => exact againstConstant_needs_value.mono fun h => ⟨nofun, fun _ => h⟩
    | false => exact .of_true ⟨nofun, nofun⟩

/-- A test needs the values of the constants on both sides. -/
lemma formsOf_test_needs_values (hop : op.isPredicate = true)
    (hsides : (l.isConst && r.isConst) = false) :
    (formsOf (.binary op l r) ctx).Needs
      ((l.isConst = true → l.HasValue) ∧ (r.isConst = true → r.HasValue)) := by
  refine Forms.unlessConstant_needs (fun hconst => nomatch hconst.symm.trans hsides) fun _ => ?_
  split
  case isTrue =>
    have hvalue : ∀ e : Expr, (formsOf e ctx).condition.Needs (e.isConst = true → e.HasValue) :=
      fun e c hc const => condition_needs_value ctx const c hc
    exact Forms.ofCondition_needs (logical_needs (hvalue l) (hvalue r))
  case isFalse hlogical =>
    have hcomparison : op.isComparison = true := by
      simpa [BinaryOp.isPredicate, hlogical] using hop
    rw [if_pos hcomparison]
    exact Forms.ofCondition_needs (comparison_needs_value hsides)

/-- A computed value needs the values of the constants on both sides. -/
lemma formsOf_computed_needs_values (hop : op.isPredicate = false)
    (hsides : (l.isConst && r.isConst) = false) :
    (formsOf (.binary op l r) ctx').Needs
      ((l.isConst = true → (stripWidening ctx l).HasValue) ∧
        (r.isConst = true → (stripWidening ctx r).HasValue)) := by
  have hvalue : ∀ e : Expr,
      (formsOf e ctx').scalar.Needs (e.isConst = true → (stripWidening ctx e).HasValue) :=
    fun e x hx const => scalar_needs_value ctx ctx' const x hx
  obtain ⟨hlogical, hcomparison⟩ := Bool.or_eq_false_iff.mp hop
  refine Forms.unlessConstant_needs (fun hconst => nomatch hconst.symm.trans hsides) fun _ => ?_
  rw [hlogical, hcomparison]
  exact Forms.ofScalar_needs (arithmetic_needs (hvalue l) (hvalue r))

end Binary

/-- A choice needs the values of its constants; the test is a condition. -/
lemma formsOf_conditional_needs_values {test yes no : Expr} (ctx : Context)
    (hwhole : (Expr.conditional test yes no).isConst = false) :
    (formsOf (.conditional test yes no) ctx').Needs
      ((test.isConst = true → test.HasValue) ∧
        (yes.isConst = true → (stripWidening ctx yes).HasValue) ∧
        (no.isConst = true → (stripWidening ctx no).HasValue)) := by
  have htest : (formsOf test ctx').condition.Needs (test.isConst = true → test.HasValue) :=
    fun c hc const => condition_needs_value ctx' const c hc
  have hvalue : ∀ e : Expr,
      (formsOf e ctx').scalar.Needs (e.isConst = true → (stripWidening ctx e).HasValue) :=
    fun e x hx const => scalar_needs_value ctx ctx' const x hx
  refine Forms.unlessConstant_needs (fun hconst => nomatch hconst.symm.trans hwhole) fun _ => ?_
  exact Forms.ofScalar_needs (choice_needs htest (hvalue yes) (hvalue no))

/-- An expression needs the values of the constants that are folded for it. -/
theorem FoldedFor.needs (h : FoldedFor ctx c whole) (hwhole : whole.isConst = false)
    (ctx' : Context) : (formsOf whole ctx').Needs c.HasValue := by
  have hany : ∀ {o : Option (Emit Cond)}, NeedsIfPresent o (∀ c ∈ o, c.Succeeds) :=
    needsIfPresent_self _
  cases h with
  | left hop const => exact (formsOf_test_needs_values hop hwhole).mono fun h => h.1 const
  | right hop const => exact (formsOf_test_needs_values hop hwhole).mono fun h => h.2 const
  | leftValue hop const => exact (formsOf_computed_needs_values hop hwhole).mono fun h => h.1 const
  | rightValue hop const => exact (formsOf_computed_needs_values hop hwhole).mono fun h => h.2 const
  | test const => exact (formsOf_conditional_needs_values ctx hwhole).mono fun h => h.1 const
  | yes const => exact (formsOf_conditional_needs_values ctx hwhole).mono fun h => h.2.1 const
  | no const => exact (formsOf_conditional_needs_values ctx hwhole).mono fun h => h.2.2 const
  | read hsecond const => exact formsOf_call_needs_read hsecond const hwhole
  | argument he hunread hempty const =>
    exact formsOf_call_needs_written he hunread hempty const hwhole
  | member const =>
    have hx := scalar_needs_value ctx ctx' const
    exact Forms.ofCondition_needs ((subqueryMembership_needs hx hany).mono And.left)
  | @filter e _ q hq const =>
    have hx : (formsOf e ctx').scalar.Needs True := .of_true trivial
    have hfilter : NeedsIfPresent (queryFilter q (ctx'.inside q)) c.HasValue :=
      queryFilter_needs_value hq const
    exact Forms.ofCondition_needs ((subqueryMembership_needs hx hfilter).mono And.right)
  | existing hq const =>
    exact (formsOf_exists_needs (queryFilter_needs_value hq const) hany).mono And.left
  | @condition q _ const =>
    have hc : NeedsIfPresent (optionCondition (some c) (ctx'.enter q true)) c.HasValue :=
      condition_needs_value _ const
    exact (formsOf_exists_needs hany hc).mono And.right

end Sql

end TableQuery
