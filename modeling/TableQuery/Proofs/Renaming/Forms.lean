import TableQuery.Proofs.Emission.Needs
import TableQuery.Proofs.Renaming.Statement

/-!
# Forms in other places

An expression has the same forms in all places that differ in the names of rows and in rows around
that it does not read.  The names of rows leave no trace in the pieces of the forms.  The rows
around may: where a subquery may not read their tables, the expression has no form.  So of a family
of places with different rows around only one is looked at: if the expression has a form where the
most rows are around, it has the same form in all places (`Follow`).

By induction on the expression: it has a form where the most rows are around only if its operands
do, as far as they are written, and then the forms are uniform if those of the operands are.
-/

namespace TableQuery.Sql

open Emit (Uniform)

variable {W : Type} {α β : Type}

/-- A family of steps is uniform if it is known to be, or if one of them succeeds. -/
def Follow (known : Prop) (lead : W) (x : W → Emit α) (P : (W → α) → Prop) : Prop :=
  known ∨ (x lead).Succeeds → Uniform x P

/-- Both forms of a family of expressions follow those of one of them. -/
def FollowForms (known : Prop) (lead : W) (d : Dialect) (f : W → Forms) : Prop :=
  Follow known lead (fun w => (f w).condition) (Conds d Fixed) ∧
    Follow known lead (fun w => (f w).scalar) (Scalars d Fixed)

section Follow

variable {known : Prop} {lead : W} {d : Dialect} {x : W → Emit α} {P : (W → α) → Prop}
  {f : W → Forms}

/-- Uniform forms follow any of them. -/
lemma FollowForms.of_uniform (h : UniformForms d Fixed f) : FollowForms known lead d f :=
  ⟨fun _ => h.1, fun _ => h.2⟩

/-- The forms are uniform if a fact holds that the leading ones need. -/
lemma FollowForms.of_needs {N : Prop} (hneeds : (f lead).Needs N)
    (h : known ∨ N → UniformForms d Fixed f) : FollowForms known lead d f := by
  constructor
  · intro hlead
    refine (h (hlead.imp_right ?_)).1
    rintro ⟨c, hc⟩
    exact hneeds.1 c hc
  · intro hlead
    refine (h (hlead.imp_right ?_)).2
    rintro ⟨t, ht⟩
    exact hneeds.2 t ht

/-- A choice of forms that does not vary. -/
lemma FollowForms.ite {p : Prop} [Decidable p] {g : W → Forms} (hf : p → FollowForms known lead d f)
    (hg : ¬p → FollowForms known lead d g) :
    FollowForms known lead d fun w => if p then f w else g w := by
  split
  case isTrue hp => exact hf hp
  case isFalse hp => exact hg hp

/-- The step of an operand is uniform if it is known to be, or if the operand is constant, or if the
leading step succeeds. -/
lemma Follow.uniform {const : Prop} (h : Follow (known ∨ const) lead x P)
    (hlead : known ∨ const ∨ (x lead).Succeeds) : Uniform x P :=
  h (or_assoc.mpr hlead)

end Follow

/-- Whether a call tests for the empty text at the end does not depend on the rows. -/
lemma isEmptySuffix_rename (f : SourceId → SourceId) (func : Func) (args : List Expr) :
    isEmptySuffix func (listRename f args) = isEmptySuffix func args := by
  match args with
  | [text, pattern] =>
    cases const : pattern.isConst with
    | true =>
      simp only [listRename, pattern.rename_const const]
      cases func <;> rfl
    | false =>
      have hrename : (pattern.rename f).isConst = false := pattern.isConst_rename.trans const
      cases func <;> simp [isEmptySuffix, listRename, hrename, const]
  | [] | [_] | _ :: _ :: _ :: _ => cases func <;> rfl

section Operands

variable {known : Prop} {lead : W} {ctx : Context} {vs : W → Variation} {e : Expr} {f : W → Forms}
  {x : W → Emit Scalar}

/-- An operand is a constant, which is written by its value, or the value of it is written. -/
def Written (e : Expr) (x : Emit α) : Prop := e.isConst = true ∨ x.Succeeds

/-- A step needs its operand to be written. -/
lemma Emit.needs_written (e : Expr) (x : Emit α) : x.Needs (Written e x) :=
  Emit.Needs.self.mono .inr

/-- The forms of an expression that may be constant: a constant has the same ones everywhere. -/
lemma Forms.unlessConstant_follow (h : e.isConst = false → FollowForms known lead ctx.dialect f) :
    FollowForms (known ∨ e.isConst = true) lead ctx.dialect fun w =>
      Forms.unlessConstant (e.rename (vs w).rename) (f w) := by
  cases const : e.isConst with
  | true =>
    refine .of_uniform ?_
    simp only [Forms.unlessConstant, e.rename_const const, const, if_true]
    exact Forms.ofConstant_uniform (stable_fixed _) e
  | false =>
    simp only [Forms.unlessConstant, e.isConst_rename, const, Bool.false_eq_true, or_false,
      if_false]
    exact h const

/-- The forms of an expression that is never constant. -/
lemma FollowForms.not_const (const : e.isConst = false) (h : FollowForms known lead ctx.dialect f) :
    FollowForms (known ∨ e.isConst = true) lead ctx.dialect f := by
  simp only [const, Bool.false_eq_true, or_false]
  exact h

/-- The forms of an expression that is a value. -/
lemma Forms.ofScalar_vary (h : ∀ w, (vs w).Spares e.columns)
    (hx : Uniform x (Scalars ctx.dialect Fixed)) :
    UniformForms ctx.dialect Fixed fun w =>
      Forms.ofScalar (ctx.vary (vs w)) (e.rename (vs w).rename) (x w) :=
  Forms.ofScalar_uniform (stable_fixed _) hx (fun w => Context.inferType_vary (h w))
    fun _ => e.describe_rename

/-- A constant has the same value everywhere. -/
lemma known_rename (const : e.isConst = true) :
    Known Fixed fun w => e.rename (vs w).rename := by
  simp only [e.rename_const const]
  exact .lift fun v _ => .fixed (stable_fixed .sqlite) v

/-- An expression is the same constant everywhere, or nowhere constant. -/
lemma steady_rename : Steady fun w => e.rename (vs w).rename := by
  cases const : e.isConst with
  | true => exact .inl ⟨e, fun _ => e.rename_const const⟩
  | false => exact .inr fun _ => e.isConst_rename.trans const

end Operands

section Places

variable {lead : W} {vs : W → Variation} {ctx : Context} {q : Query}

/-- All places of a family have the same rows around all others. -/
def Alike (vs : W → Variation) (lead : W) : Prop := ∀ w, (vs w).beyond = (vs lead).beyond

/-- A table that no row comes from where the most rows are around is free in all places. -/
lemma readsTableOf_widest (hwidest : ∀ w, (vs w).beyond ⊆ (vs lead).beyond)
    (h : Alike vs lead ∨ (ctx.vary (vs lead)).readsTableOf (q.rename (vs lead).rename) = false)
    (w : W) :
    (ctx.vary (vs w)).readsTableOf (q.rename (vs w).rename) =
      (ctx.vary (vs lead)).readsTableOf (q.rename (vs lead).rename) := by
  obtain h | h := h
  · rw [Context.readsTableOf_vary, Context.readsTableOf_vary, h w]
  · rw [h]
    rw [Context.readsTableOf_vary, Bool.or_eq_false_iff, List.any_eq_false] at h ⊢
    exact ⟨h.1, fun s hs => h.2 s (hwidest w hs)⟩

/-- So is a table that may be read again only by a query that reads none of the rows around it. -/
lemma correlatedTable_widest (hwidest : ∀ w, (vs w).beyond ⊆ (vs lead).beyond)
    (h : Alike vs lead ∨ (ctx.isCorrelated q &&
      (ctx.vary (vs lead)).readsTableOf (q.rename (vs lead).rename)) = false) (w : W) :
    (ctx.isCorrelated q && (ctx.vary (vs w)).readsTableOf (q.rename (vs w).rename)) =
      (ctx.isCorrelated q && (ctx.vary (vs lead)).readsTableOf (q.rename (vs lead).rename)) := by
  cases hcorrelated : ctx.isCorrelated q with
  | false => rfl
  | true =>
    rw [hcorrelated] at h
    exact congrArg (true && ·) (readsTableOf_widest hwidest h w)

end Places

section Traversal

variable {lead : W} {vs : W → Variation}

/-- The value of an argument follows the leading one. -/
structure FollowArgument (known : Prop) (lead : W) (d : Dialect) (a : W → Argument) : Prop where
  steady : Steady fun w => (a w).expr
  scalar : Follow (known ∨ (a lead).expr.isConst = true) lead (fun w => (a w).scalar)
    (Scalars d Fixed)

/-- A filter follows the leading one: it is absent everywhere or nowhere. -/
def FollowFilter (known : Prop) (lead : W) (d : Dialect) (f : W → Option (Emit Cond)) : Prop :=
  (f = fun _ => none) ∨ ∃ c, (f = fun w => some (c w)) ∧ Follow known lead c (Conds d Fixed)

/-- Filters that follow one that succeeds are uniform. -/
lemma FollowFilter.uniform {known : Prop} {d : Dialect} {f : W → Option (Emit Cond)}
    (h : FollowFilter known lead d f) (hlead : known ∨ ∀ c ∈ f lead, c.Succeeds) :
    UniformFilter d Fixed f := by
  obtain rfl | ⟨c, rfl, hc⟩ := h
  · exact .inl rfl
  · exact .inr ⟨c, rfl, hc (hlead.imp_right fun h => h (c lead) rfl)⟩

section Constructors

variable {ctx : Context} {e l r test yes no : Expr} {q : Query}

/-- Both forms of an expression follow those in the place with the most rows around, if the rows
around are not read. -/
def VariedFollow (lead : W) (vs : W → Variation) (ctx : Context) (e : Expr) : Prop :=
  (∀ w, (vs w).Spares e.columns) →
    FollowForms (Alike vs lead ∨ e.isConst = true) lead ctx.dialect fun w =>
      formsOf (e.rename (vs w).rename) (ctx.vary (vs w))

/-- A column has its new name everywhere. -/
lemma column_vary (ref : ColumnRef) : VariedFollow lead vs ctx (.column ref) := by
  intro h
  have hname := fun w =>
    ctx.columnName_vary (h w).injective ref fun _ => (h w).unread ref List.mem_cons_self
  refine .of_uniform (Forms.ofScalar_vary h ((lift_map_uniform hname).bind ?_))
  rintro _ ⟨c, rfl⟩
  exact .pure fun _ _ => rfl

/-- An operator with one operand. -/
lemma unary_vary (op : UnaryOp) (he : VariedFollow lead vs ctx e) :
    VariedFollow lead vs ctx (.unary op e) := by
  intro h
  have hs := stable_fixed (W := W) ctx.dialect
  have he := he h
  refine Forms.unlessConstant_follow fun _ => ?_
  cases op with
  | not =>
    refine .of_needs (Forms.ofCondition_needs (Emit.Needs.self.first)) fun hlead => ?_
    refine Forms.ofCondition_uniform hs ?_
    exact (he.1.uniform (hlead.imp_right .inr)).bind fun _ hc => .pure (hs.parenCond (hs.not hc))
  | negate =>
    refine .of_needs (Forms.ofScalar_needs (Emit.Needs.self.first)) fun hlead => ?_
    refine Forms.ofScalar_vary h ?_
    exact (he.2.uniform (hlead.imp_right .inr)).bind fun _ hx => .pure (hs.paren (hs.negate hx))
  | bitwiseNot =>
    refine .of_needs (Forms.ofScalar_needs (Emit.Needs.self.first)) fun hlead => ?_
    refine Forms.ofScalar_vary h ?_
    exact (he.2.uniform (hlead.imp_right .inr)).bind fun _ hx =>
      .pure (hs.paren (hs.complement hx))

/-- An operator with two operands. -/
lemma binary_vary (op : BinaryOp) (hl : VariedFollow lead vs ctx l)
    (hr : VariedFollow lead vs ctx r) : VariedFollow lead vs ctx (.binary op l r) := by
  intro h
  have hs := stable_fixed (W := W) ctx.dialect
  have hparts := fun w => Variation.spares_leaves.mp (h w)
  have hleft := hl fun w => (hparts w).1
  have hright := hr fun w => (hparts w).2
  refine Forms.unlessConstant_follow fun _ =>
    .ite (fun _ => ?_) fun _ => .ite (fun _ => ?_) fun _ => ?_
  · refine .of_needs (Forms.ofCondition_needs (logical_needs .self .self)) fun hlead => ?_
    have hl := hleft.1.uniform (hlead.imp_right fun hboth => .inr hboth.1)
    have hr := hright.1.uniform (hlead.imp_right fun hboth => .inr hboth.2)
    exact Forms.ofCondition_uniform hs (logical_uniform hs hl hr)
  · -- A constant is compared with by its value, so its forms may fail in the leading place.
    refine .of_needs (Forms.ofCondition_needs (comparison_needs (Emit.needs_written l _)
      (Emit.needs_written r _) (fun const => .inl (l.isConst_rename.symm.trans const))
      fun const => .inl (r.isConst_rename.symm.trans const))) fun hlead => ?_
    have hl := hleft.2.uniform (hlead.imp_right And.left)
    have hr := hright.2.uniform (hlead.imp_right And.right)
    refine Forms.ofCondition_uniform hs (comparison_uniform hs hl hr
      (fun _ => l.isConst_rename) (fun _ => r.isConst_rename) ?_ ?_)
    · exact fun const _ => known_rename const
    · exact fun const _ => known_rename const
  · refine .of_needs (Forms.ofScalar_needs (arithmetic_needs .self .self)) fun hlead => ?_
    have hl := hleft.2.uniform (hlead.imp_right fun hboth => .inr hboth.1)
    have hr := hright.2.uniform (hlead.imp_right fun hboth => .inr hboth.2)
    have htl : ∀ w, (ctx.vary (vs w)).inferType (l.rename (vs w).rename) = ctx.inferType l :=
      fun w => Context.inferType_vary (hparts w).1
    have htr : ∀ w, (ctx.vary (vs w)).inferType (r.rename (vs w).rename) = ctx.inferType r :=
      fun w => Context.inferType_vary (hparts w).2
    exact Forms.ofScalar_vary h (arithmetic_uniform hs hl hr (fun _ => rfl) htl htr)

/-- A conversion, which is looked through everywhere or nowhere. -/
lemma cast_vary (ty : ColumnType) (implicit : Bool) (he : VariedFollow lead vs ctx e) :
    VariedFollow lead vs ctx (.cast e ty implicit) := by
  intro h
  have hs := stable_fixed (W := W) ctx.dialect
  have he := he h
  have hwidening : ∀ w, isWidening (ctx.vary (vs w)) (e.rename (vs w).rename) ty implicit =
      isWidening ctx e ty implicit := fun w => isWidening_vary (h w)
  have hwhole : ∀ {x : W → Emit Scalar},
      Follow (Alike vs lead) lead x (Scalars ctx.dialect Fixed) →
        FollowForms (Alike vs lead ∨ (Expr.cast e ty implicit).isConst = true) lead ctx.dialect
          fun w => Forms.unlessConstant ((Expr.cast e ty implicit).rename (vs w).rename)
            (.ofScalar (ctx.vary (vs w)) ((Expr.cast e ty implicit).rename (vs w).rename)
              (x w)) := by
    intro x hx
    refine Forms.unlessConstant_follow fun _ => ?_
    exact .of_needs (Forms.ofScalar_needs .self) fun hlead => Forms.ofScalar_vary h (hx hlead)
  simp only [Expr.rename, formsOf, hwidening] at hwhole ⊢
  have hoperand : Follow (Alike vs lead) lead
      (fun w => (formsOf (e.rename (vs w).rename) (ctx.vary (vs w))).scalar)
      (Scalars ctx.dialect Fixed) := fun hlead => he.2.uniform (hlead.imp_right .inr)
  cases isWidening ctx e ty implicit with
  | true => exact ⟨(hwhole hoperand).1, he.2⟩
  | false =>
    refine hwhole fun hlead => Call.castTo_uniform hs (hoperand (hlead.imp_right ?_))
    rintro ⟨x, hx⟩
    exact Call.castTo_needs .self x hx

/-- A choice. -/
lemma conditional_vary (ht : VariedFollow lead vs ctx test) (hy : VariedFollow lead vs ctx yes)
    (hn : VariedFollow lead vs ctx no) :
    VariedFollow lead vs ctx (.conditional test yes no) := by
  intro h
  have hs := stable_fixed (W := W) ctx.dialect
  have hparts := fun w => Variation.spares_leaves.mp (h w)
  have hbranches := fun w => Variation.spares_leaves.mp (hparts w).1
  refine Forms.unlessConstant_follow fun _ => ?_
  refine .of_needs (Forms.ofScalar_needs (choice_needs .self .self .self)) fun hlead => ?_
  have ht := (ht fun w => (hbranches w).1).1.uniform (hlead.imp_right fun hall => .inr hall.1)
  have hy := (hy fun w => (hbranches w).2).2.uniform (hlead.imp_right fun hall => .inr hall.2.1)
  have hn := (hn fun w => (hparts w).2).2.uniform (hlead.imp_right fun hall => .inr hall.2.2)
  refine Forms.ofScalar_vary h ?_
  exact ht.bind fun _ ht => hy.bind fun _ hy => hn.bind fun _ hn => .pure (hs.chosen ht hy hn)

section Calls

variable {func : Func} {args : List Expr} {as : List (W → Argument)}

/-- The arguments of a call are uniform if those in the leading place are written. -/
lemma arguments_vary (hfollow : ∀ a ∈ as, FollowArgument (Alike vs lead) lead ctx.dialect a)
    (hlead : Alike vs lead ∨ ∀ a ∈ as.map (· lead), Written a.expr a.scalar) :
    Call.Arguments ctx.dialect Fixed as := by
  intro a ha
  refine (hfollow a ha).scalar.uniform (hlead.imp_right fun hall => ?_)
  exact hall (a lead) (List.mem_map_of_mem ha)

/-- A test whose arguments follow those in the leading place. -/
lemma condition_vary
    (has : ∀ w, argumentForms (listRename (vs w).rename args) (ctx.vary (vs w)) = as.map (· w))
    (hfollow : ∀ a ∈ as, FollowArgument (Alike vs lead) lead ctx.dialect a)
    (hsteady : func.readsSecond = true → ∀ a ∈ as[1]?, Steady fun w => (a w).expr)
    (hfunc : func.isPredicate = true) :
    FollowForms (Alike vs lead) lead ctx.dialect fun w =>
      Forms.ofCondition (Call.condition ctx.dialect func (as.map (· w))) := by
  have hs := stable_fixed (W := W) ctx.dialect
  have hexprs : ∀ w, isEmptySuffix func ((as.map (· w)).map Argument.expr) =
      isEmptySuffix func args := by
    intro w
    rw [← has w, argumentForms_expr, isEmptySuffix_rename]
  cases hempty : isEmptySuffix func args with
  | true =>
    -- The first argument is not written, so nothing is known of it.
    have hall : ∀ w, Call.condition ctx.dialect func (as.map (· w)) = pure (truth true) :=
      fun w => Call.condition_of_isEmptySuffix ((hexprs w).trans hempty)
    exact .of_uniform (Forms.ofCondition_uniform hs (.of_eq hall (.pure (hs.truthCond true))))
  | false =>
    have hneeds := Call.condition_needs (d := ctx.dialect) hfunc
      (fun a _ => Emit.needs_written a.expr a.scalar) (fun _ _ const => .inl const)
      ((hexprs lead).trans hempty)
    refine .of_needs (Forms.ofCondition_needs hneeds) fun hlead => ?_
    exact Forms.ofCondition_uniform hs
      (Call.condition_uniform hs (arguments_vary hfollow hlead) hsteady)

/-- A call whose arguments follow those in the leading place. -/
lemma call_vary (h : ∀ w, (vs w).Spares (Expr.call func args).columns)
    (has : ∀ w, argumentForms (listRename (vs w).rename args) (ctx.vary (vs w)) = as.map (· w))
    (hfollow : ∀ a ∈ as, FollowArgument (Alike vs lead) lead ctx.dialect a) :
    FollowForms (Alike vs lead ∨ (Expr.call func args).isConst = true) lead ctx.dialect fun w =>
      formsOf ((Expr.call func args).rename (vs w).rename) (ctx.vary (vs w)) := by
  have hs := stable_fixed (W := W) ctx.dialect
  have hsteady : func.readsSecond = true → ∀ a ∈ as[1]?, Steady fun w => (a w).expr :=
    fun _ a ha => (hfollow a (List.mem_of_getElem? ha)).steady
  refine Forms.unlessConstant_follow fun _ => ?_
  simp only [has]
  refine .ite (fun hfunc => condition_vary has hfollow hsteady hfunc) fun hfunc => ?_
  have hneeds := Call.scalar_needs (d := ctx.dialect) (Bool.eq_false_iff.mpr hfunc)
    (fun a (_ : a ∈ as.map (· lead)) => Emit.needs_written a.expr a.scalar)
    fun _ _ const => .inl const
  refine .of_needs (Forms.ofScalar_needs hneeds) fun hlead => ?_
  exact Forms.ofScalar_vary h (Call.scalar_uniform hs (arguments_vary hfollow hlead) hsteady)

end Calls

/-- Membership in a list, which does not read its operand if the list is empty. -/
lemma inList_vary (members : List Value) (he : VariedFollow lead vs ctx e) :
    VariedFollow lead vs ctx (.inList e members) := by
  intro h
  have hs := stable_fixed (W := W) ctx.dialect
  refine Forms.unlessConstant_follow fun _ => ?_
  cases hempty : members.isEmpty with
  | true =>
    cases List.isEmpty_iff.mp hempty
    exact .of_uniform (Forms.ofCondition_uniform hs (.pure (hs.truthCond false)))
  | false =>
    refine .of_needs (Forms.ofCondition_needs (membership_needs .self hempty)) fun hlead => ?_
    refine Forms.ofCondition_uniform hs (membership_fixed_uniform hs ?_ members)
    exact (he h).2.uniform (hlead.imp_right .inr)

/-- Membership in a query.  Beyond its operands, the test needs that the query does not read a table
of the rows around. -/
lemma inSubquery_vary (hwidest : ∀ w, (vs w).beyond ⊆ (vs lead).beyond)
    (he : VariedFollow lead vs ctx e)
    (hfilter : (∀ w, (vs w).Spares (q.leaves.filterMap Leaf.column?)) →
      FollowFilter (Alike vs lead) lead ctx.dialect fun w =>
        queryFilter (q.rename (vs w).rename) ((ctx.inside q).vary (vs w))) :
    VariedFollow lead vs ctx (.inSubquery e q) := by
  intro h
  have hs := stable_fixed (W := W) ctx.dialect
  have hparts := fun w => Variation.spares_leaves.mp (h w)
  have he := he fun w => (hparts w).1
  have hfilter := hfilter fun w => (hparts w).2
  have hplace : ∀ w, (ctx.vary (vs w)).isCorrelated (q.rename (vs w).rename) =
    ctx.isCorrelated q := fun w => Context.isCorrelated_vary (hparts w).2
  have hinside : ∀ w, (ctx.vary (vs w)).inside (q.rename (vs w).rename) =
    (ctx.inside q).vary (vs w) := fun w => Context.inside_vary (hparts w).2
  refine .not_const rfl ?_
  simp only [Expr.rename, formsOf, hinside]
  refine .of_needs (Forms.ofCondition_needs ((subqueryMembership_needs .self
    (needsIfPresent_self _)).and subqueryMembership_needs_free)) fun hlead => ?_
  rw [hplace] at hlead
  refine Forms.ofCondition_uniform hs (subqueryMembership_vary (fun w => (hparts w).2)
    (he.2.uniform (hlead.imp_right fun hall => .inr hall.1.1))
    (correlatedTable_widest hwidest (hlead.imp_right And.right)) fun _ => ?_)
  exact hfilter.uniform (hlead.imp_right fun hall => hall.1.2)

/-- Whether a query has a row, for which too it may not read a table of the rows around. -/
lemma exists_vary (hwidest : ∀ w, (vs w).beyond ⊆ (vs lead).beyond) {condition : Option Expr}
    (hfilter : (∀ w, (vs w).Spares (q.leaves.filterMap Leaf.column?)) →
      FollowFilter (Alike vs lead) lead ctx.dialect fun w =>
        queryFilter (q.rename (vs w).rename) ((ctx.enter q true).vary (vs w)))
    (hcondition : (∀ w, (vs w).Spares ((optionLeaves condition).filterMap Leaf.column?)) →
      FollowFilter (Alike vs lead) lead ctx.dialect fun w =>
        optionCondition (optionRename (vs w).rename condition) ((ctx.enter q true).vary (vs w))) :
    VariedFollow lead vs ctx (.exists q condition) := by
  intro h
  have hs := stable_fixed (W := W) ctx.dialect
  have hparts := fun w => Variation.spares_leaves.mp (h w)
  have hfilter := hfilter fun w => (hparts w).1
  have hcondition := hcondition fun w => (hparts w).2
  refine .not_const rfl ?_
  simp only [Expr.rename, formsOf, Context.enter_vary]
  refine .of_needs (Forms.ofCondition_needs ((existence_needs (needsIfPresent_self _)
    (needsIfPresent_self _)).and existence_needs_free)) fun hlead => ?_
  refine Forms.ofCondition_uniform hs (existence_vary
    (readsTableOf_widest hwidest (hlead.imp_right And.right)) (fun _ => ?_) fun _ => ?_)
  · exact hfilter.uniform (hlead.imp_right fun hall => hall.1.1)
  · exact hcondition.uniform (hlead.imp_right fun hall => hall.1.2)

end Constructors

mutual

/-- Both forms of an expression follow those in the place with the most rows around. -/
theorem formsOf_vary (hwidest : ∀ w, (vs w).beyond ⊆ (vs lead).beyond) :
    (e : Expr) → (ctx : Context) → VariedFollow lead vs ctx e
  | .value v, _ => fun _ => .of_uniform (Forms.ofConstant_uniform (stable_fixed _) (.value v))
  | .column ref, _ => column_vary ref
  | .unary op e, ctx => unary_vary op (formsOf_vary hwidest e ctx)
  | .binary op l r, ctx => binary_vary op (formsOf_vary hwidest l ctx) (formsOf_vary hwidest r ctx)
  | .cast e ty implicit, ctx => cast_vary ty implicit (formsOf_vary hwidest e ctx)
  | .conditional test yes no, ctx =>
    conditional_vary (formsOf_vary hwidest test ctx) (formsOf_vary hwidest yes ctx)
      (formsOf_vary hwidest no ctx)
  | .call func args, ctx => by
    intro h
    obtain ⟨as, has, hfollow⟩ := argumentForms_vary hwidest args ctx h
    exact call_vary h has hfollow
  | .inList e members, ctx => inList_vary members (formsOf_vary hwidest e ctx)
  | .inSubquery e q, ctx =>
    inSubquery_vary hwidest (formsOf_vary hwidest e ctx)
      (queryFilter_vary hwidest q (ctx.inside q))
  | .exists q condition, ctx =>
    exists_vary hwidest (queryFilter_vary hwidest q (ctx.enter q true))
      (optionCondition_vary hwidest condition (ctx.enter q true))

/-- The values of arguments follow those in the place with the most rows around. -/
theorem argumentForms_vary (hwidest : ∀ w, (vs w).beyond ⊆ (vs lead).beyond) :
    (args : List Expr) → (ctx : Context) →
    (∀ w, (vs w).Spares ((listLeaves args).filterMap Leaf.column?)) →
      ∃ as : List (W → Argument),
        (∀ w, argumentForms (listRename (vs w).rename args) (ctx.vary (vs w)) = as.map (· w)) ∧
          ∀ a ∈ as, FollowArgument (Alike vs lead) lead ctx.dialect a
  | [], _, _ => ⟨[], fun _ => rfl, List.forall_mem_nil _⟩
  | e :: args, ctx, h => by
    have hparts := fun w => Variation.spares_leaves.mp (h w)
    have he := formsOf_vary hwidest e ctx fun w => (hparts w).1
    obtain ⟨as, has, hfollow⟩ := argumentForms_vary hwidest args ctx fun w => (hparts w).2
    let first : W → Argument := fun w =>
      ⟨e.rename (vs w).rename, (formsOf (e.rename (vs w).rename) (ctx.vary (vs w))).scalar⟩
    refine ⟨first :: as, fun w => ?_, List.forall_mem_cons.mpr ⟨⟨steady_rename, ?_⟩, hfollow⟩⟩
    · rw [listRename, argumentForms, has]
      rfl
    · simp only [first, e.isConst_rename]
      exact he.2

/-- The condition of an expression that may be absent follows the one in the place with the most
rows around. -/
theorem optionCondition_vary (hwidest : ∀ w, (vs w).beyond ⊆ (vs lead).beyond) :
    (o : Option Expr) → (ctx : Context) →
    (∀ w, (vs w).Spares ((optionLeaves o).filterMap Leaf.column?)) →
      FollowFilter (Alike vs lead) lead ctx.dialect fun w =>
        optionCondition (optionRename (vs w).rename o) (ctx.vary (vs w))
  | none, _, _ => .inl rfl
  | some e, ctx, h =>
    .inr ⟨_, rfl, fun hlead => (formsOf_vary hwidest e ctx h).1 (hlead.imp_left .inl)⟩

/-- The filter of a query follows the one in the place with the most rows around. -/
theorem queryFilter_vary (hwidest : ∀ w, (vs w).beyond ⊆ (vs lead).beyond) :
    (q : Query) → (ctx : Context) →
    (∀ w, (vs w).Spares (q.leaves.filterMap Leaf.column?)) →
      FollowFilter (Alike vs lead) lead ctx.dialect fun w =>
        queryFilter (q.rename (vs w).rename) (ctx.vary (vs w))
  | ⟨_, _, predicate, _, _, _, _, _, _⟩, ctx, h => optionCondition_vary hwidest predicate ctx h

end

end Traversal

end TableQuery.Sql
