import TableQuery.Proofs.Emission.Query
import TableQuery.Sql.Statement

/-!
# The trees of expressions

Both forms of every expression are written as they should be and bind what their steps have bound
(`formsOf_carry`), by induction on the expression; and so is what a query or an expression is
compiled to (`ofQuery_carries`, `ofExpr_carries`).
-/

namespace TableQuery.Sql

variable {ok : List From → ColumnName → Prop}

/-- A column in reach. -/
lemma column_carries {ctx : Context} {ref : ColumnRef} (h : Admits ok [⟨ctx, ref⟩]) :
    Emit.Gives (do return Scalar.column (← Emit.lift (ctx.columnName ref)))
      (Scalar.Carries ok ctx.froms ctx.dialect) := by
  refine .lift_bind fun c hc => .pure ⟨rfl, h _ List.mem_cons_self c hc, ?_⟩
  exact boundValues_column c

mutual

/-- Both forms of an expression are written as they should be. -/
theorem formsOf_carry :
    (e : Expr) → (ctx : Context) → Admits ok (exprSites e ctx) → (formsOf e ctx).Carry ok ctx
  | .value v, ctx, _ => Forms.ofConstant_carry _
  | .column ref, ctx, h => Forms.ofScalar_carry (column_carries h)
  | .unary op e, ctx, h => by
    have he := formsOf_carry e ctx h
    refine Forms.unlessConstant_carry ?_
    cases op with
    | not =>
      refine Forms.ofCondition_carry (he.1.bind ?_)
      rintro c us ⟨hcs, hcw, hcb⟩
      refine .pure ⟨rfl, ⟨hcs, hcw⟩, ?_⟩
      simp [Cond.pieces, hcb]
    | negate =>
      refine Forms.ofScalar_carry (he.2.bind ?_)
      rintro x us ⟨hxp, hxw, hxb⟩
      refine .pure ⟨rfl, ⟨Scalar.isSingle_of_isPrimary hxp, hxw⟩, ?_⟩
      simp [Scalar.pieces, hxb]
    | bitwiseNot =>
      refine Forms.ofScalar_carry (he.2.bind ?_)
      rintro x us ⟨hxp, hxw, hxb⟩
      refine .pure ⟨rfl, ⟨Scalar.isSingle_of_isPrimary hxp, hxw⟩, ?_⟩
      simp [Scalar.pieces, hxb]
  | .binary op l r, ctx, h => by
    rw [exprSites, admits_append] at h
    have hl := formsOf_carry l ctx h.1
    have hr := formsOf_carry r ctx h.2
    refine Forms.unlessConstant_carry ?_
    split
    case isTrue => exact Forms.ofCondition_carry (logical_carries hl.1 hr.1)
    case isFalse hlogical =>
      split
      case isTrue hop => exact Forms.ofCondition_carry (comparison_carries hop hl.2 hr.2)
      case isFalse hop =>
        exact Forms.ofScalar_carry (arithmetic_carries (by simpa using hlogical)
          (by simpa using hop) hl.2 hr.2)
  | .cast e ty implicit, ctx, h => by
    have he := formsOf_carry e ctx h
    rw [formsOf]
    split
    -- A conversion that is left out gives the operand's own value, folded or not.
    · exact ⟨(Forms.unlessConstant_carry (Forms.ofScalar_carry he.2)).1, he.2⟩
    · exact Forms.unlessConstant_carry (Forms.ofScalar_carry (Call.castTo_carries he.2))
  | .conditional test yes no, ctx, h => by
    rw [exprSites, admits_append, admits_append] at h
    have ht := formsOf_carry test ctx h.1.1
    have hy := formsOf_carry yes ctx h.1.2
    have hn := formsOf_carry no ctx h.2
    refine Forms.unlessConstant_carry (Forms.ofScalar_carry (ht.1.bind ?_))
    rintro c us ⟨hcs, hcw, hcb⟩
    refine hy.2.bind ?_
    rintro y vs ⟨-, hyw, hyb⟩
    refine hn.2.bind ?_
    rintro n ws ⟨-, hnw, hnb⟩
    refine .pure ⟨rfl, ⟨⟨Cond.isClause_of_isSingle hcs, hcw⟩, hyw, hnw⟩, ?_⟩
    simp [chosen, Scalar.pieces, hcb, hyb, hnb]
  | .call func args, ctx, h => by
    have hargs := argumentForms_carry args ctx h
    refine Forms.unlessConstant_carry ?_
    split
    · exact Forms.ofCondition_carry (Call.condition_carries hargs)
    · exact Forms.ofScalar_carry (Call.scalar_carries hargs)
  | .inList e members, ctx, h =>
    Forms.unlessConstant_carry (Forms.ofCondition_carry
      (membership_carries (formsOf_carry e ctx h).2))
  | .inSubquery e q, ctx, h => by
    rw [exprSites, admits_append] at h
    have he := formsOf_carry e ctx h.1
    -- Only a query that is not refused is entered, and only its columns are then found.
    have hq : (ctx.isCorrelated q && ctx.readsTableOf q) = false →
        Admits ok (querySites q (ctx.inside q)) := by
      intro hfree
      have hinside := h.2
      rw [hfree] at hinside
      exact hinside
    exact Forms.ofCondition_carry (subqueryMembership_carries he.2 hq fun hfree =>
      queryFilter_carries q (ctx.inside q) (hq hfree))
  | .exists q condition, ctx, h => by
    have hq : ctx.readsTableOf q = false → Admits ok (querySites q (ctx.enter q true)) ∧
        Admits ok (optionSites condition (ctx.enter q true)) := by
      intro hfree
      rw [exprSites, hfree, if_neg Bool.false_ne_true, admits_append] at h
      exact h
    refine Forms.ofCondition_carry (existence_carries (fun hfree => ?_) fun hfree => ?_)
    · exact queryFilter_carries q (ctx.enter q true) (hq hfree).1
    · exact optionCondition_carries condition (ctx.enter q true) (hq hfree).2

/-- The arguments of a call are written as they should be. -/
theorem argumentForms_carry :
    (es : List Expr) → (ctx : Context) → Admits ok (listSites es ctx) →
      ∀ a ∈ argumentForms es ctx, a.scalar.Gives (Scalar.Carries ok ctx.froms ctx.dialect)
  | [], _, _ => fun _ ha => by cases ha
  | e :: es, ctx, h => by
    rw [listSites, admits_append] at h
    have he := formsOf_carry e ctx h.1
    have hes := argumentForms_carry es ctx h.2
    intro a ha
    cases ha with
    | head => exact he.2
    | tail _ ha => exact hes a ha

/-- The condition of an expression that may be absent is written as it should be. -/
theorem optionCondition_carries :
    (o : Option Expr) → (ctx : Context) → Admits ok (optionSites o ctx) →
      ∀ c ∈ optionCondition o ctx, c.Gives (Cond.Carries ok ctx.froms ctx.dialect)
  | none, _, _ => fun _ hc => by cases hc
  | some e, ctx, h => by
    have he := formsOf_carry e ctx h
    intro c hc
    cases hc
    exact he.1

/-- The condition of the filter of a query is written as it should be. -/
theorem queryFilter_carries :
    (q : Query) → (ctx : Context) → Admits ok (querySites q ctx) →
      ∀ c ∈ queryFilter q ctx, c.Gives (Cond.Carries ok ctx.froms ctx.dialect)
  | ⟨_, _, predicate, _, _, _, _, _, _⟩, ctx, h => by
    rw [querySites, admits_append] at h
    exact optionCondition_carries predicate ctx h.2

end

/-- What can be written out is written as it should be and binds just these values. -/
def Fragment.Carries (ok : List From → ColumnName → Prop) (q : Query) (d : Dialect) :
    Fragment → List Value → Prop
  | .select s, vs => s.Carries ok [] d vs
  | .scalar x, vs => x.Carries ok [⟨q.table.name, q.source⟩] d vs
  | .condition c, vs => c.Carries ok [⟨q.table.name, q.source⟩] d vs

variable {d : Dialect} {q : Query}

/-- The statement of a query is written as it should be. -/
theorem ofQuery_carries (h : Admits ok (querySites q (Context.top d q))) :
    (ofQuery d q).Gives (Fragment.Carries ok q d) := by
  have hfilter := queryFilter_carries q (Context.top d q) h
  refine (Select.of_carries rfl h hfilter).bind ?_
  rintro s us hs
  refine .pure ?_
  rw [List.append_nil]
  exact hs

/-- What an expression is compiled to is written as it should be. -/
theorem ofExpr_carries {e : Expr} (h : Admits ok (exprSites e (Context.top d q))) :
    (ofExpr d q e).Gives (Fragment.Carries ok q d) := by
  obtain ⟨hcondition, hscalar⟩ := formsOf_carry e (Context.top d q) h
  unfold ofExpr
  dsimp only
  split
  · refine hcondition.bind ?_
    rintro c us hc
    refine .pure ?_
    rw [List.append_nil]
    exact hc
  · refine hscalar.bind ?_
    rintro x us hx
    refine .pure ?_
    rw [List.append_nil]
    exact hx

end TableQuery.Sql
