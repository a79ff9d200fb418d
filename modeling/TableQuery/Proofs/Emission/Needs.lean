import TableQuery.Proofs.Constant.Operands
import TableQuery.Proofs.Outcome.Call
import TableQuery.Sql.Forms

/-!
# What steps need

A step needs a fact if it cannot succeed without the fact (`Emit.Needs`).  A form needs whatever the
forms of its operands need, since it takes their steps.  Two forms leave an operand out, because
they do not depend on it: the test for membership in the empty list, and the test whether a text
ends with the empty text (`isEmptySuffix`).
-/

namespace TableQuery

/-- A member is null or not. -/
lemma Value.any_isNull_of_present {vs : List Value} (h : vs.isEmpty = false)
    (hpresent : (present vs).isEmpty = true) : vs.any isNull = true := by
  cases vs with
  | nil => cases h
  | cons v vs =>
    cases hv : v.isNull with
    | true => rw [List.any_cons, hv, Bool.true_or]
    | false => simp [present, hv] at hpresent

namespace Sql

/-- A step succeeds only if a fact holds. -/
def Emit.Needs {α : Type} (x : Emit α) (P : Prop) : Prop := x.Gives fun _ _ => P

namespace Emit.Needs

variable {α β : Type} {P Q : Prop} {x : Emit α} {f : α → Emit β}

/-- A step needs to succeed. -/
lemma self : x.Needs x.Succeeds := fun a ha => ⟨a, ha⟩

/-- What needs two facts needs both of them. -/
lemma and (hp : x.Needs P) (hq : x.Needs Q) : x.Needs (P ∧ Q) := fun a ha => ⟨hp a ha, hq a ha⟩

/-- A step that fails needs anything. -/
lemma fail {e : Error} : (Emit.fail e : Emit α).Needs P := Gives.fail

/-- What holds is needed everywhere. -/
lemma of_true (h : P) : x.Needs P := fun _ _ => h

/-- What needs a fact needs what follows from it. -/
lemma mono (hx : x.Needs P) (h : P → Q) : x.Needs Q := fun a ha => h (hx a ha)

/-- One step after another, where the second may rely on what the first needs. -/
lemma bind (hx : x.Needs P) (hf : ∀ a, P → (f a).Needs Q) : (x >>= f).Needs Q :=
  Gives.bind hx fun a _ h => hf a h

/-- One step after another needs what the first needs. -/
lemma first (hx : x.Needs P) : (x >>= f).Needs P := hx.bind fun _ h => of_true h

end Emit.Needs

/-- The arguments of a call are its operands with their forms. -/
lemma argumentForms_eq_map (es : List Expr) (ctx : Context) :
    argumentForms es ctx = es.map fun e => ⟨e, (formsOf e ctx).scalar⟩ := by
  induction es with
  | nil => rfl
  | cons e es ih => rw [argumentForms, List.map_cons, ih]

/-- The operands of a call are found again in its arguments. -/
lemma argumentForms_expr (es : List Expr) (ctx : Context) :
    (argumentForms es ctx).map Argument.expr = es := by
  rw [argumentForms_eq_map, List.map_map]
  exact List.map_id es

namespace Call

open Emit (Needs)

variable {d : Dialect} {func : Func} {P : Prop} {x : Emit Scalar}

/-- The text of a pattern is found if the pattern is constant, and the text is the value of it. -/
lemma constantText?_ok {e : Expr} :
    (constantText? func e).Gives fun o _ =>
      match o with
      | some s => e.isConst = true ∧ constant e = .ok (.text s)
      | none => e.isConst = false := by
  unfold constantText?
  split
  case isTrue hconst =>
    refine .lift_bind fun v hv => ?_
    cases v with
    | text s => exact .pure ⟨hconst, hv⟩
    | _ => exact .fail
  case isFalse hconst => exact .pure (Bool.eq_false_iff.mpr hconst)

/-- The test whether a text ends with the empty text is true. -/
lemma condition_of_isEmptySuffix {args : List Argument}
    (h : isEmptySuffix func (args.map Argument.expr) = true) :
    condition d func args = pure (truth true) := by
  unfold isEmptySuffix at h
  split at h
  case h_1 text pattern hargs =>
    obtain ⟨x, rest, rfl, rfl, hrest⟩ := List.map_eq_cons_iff.mp hargs
    obtain ⟨y, last, rfl, rfl, hlast⟩ := List.map_eq_cons_iff.mp hrest
    cases List.map_eq_nil_iff.mp hlast
    rw [Bool.and_eq_true] at h
    obtain ⟨hconst, hempty⟩ := h
    -- Only a text that is empty passes the test, so the pattern folds, and to no other value.
    cases hvalue : constant y.expr with
    | error err =>
      rw [hvalue] at hempty
      cases hempty
    | ok v =>
      rw [hvalue] at hempty
      cases v with
      | text s =>
        have hs : s.isEmpty = true := hempty
        have htext : constantText? .endsWith y.expr = pure (some s) := by
          rw [constantText?, if_pos hconst, hvalue]
          rfl
        show endsWith d .endsWith x y = _
        rw [endsWith, htext]
        simp only [Bind.bind, Pure.pure, Emit.done, Emit.andThen, hs, if_true, List.nil_append]
      | _ => cases hempty
  case h_2 => cases h

/-- A conversion needs what its operand needs. -/
lemma castTo_needs {ty : ColumnType} (hx : x.Needs P) : (castTo d ty x).Needs P := by
  unfold castTo
  split
  · exact hx.first
  · exact .fail

section Arguments

variable {args : List Argument} {R : Argument → Prop}

/-- What a call asks, it needs of each argument that is not constant, unless it tests for the empty
text at the end. -/
lemma Asks.needs (hasks : Asks func args fun a => a.scalar.Succeeds)
    (h : ∀ a ∈ args, a.scalar.Needs (R a)) (hconst : ∀ a ∈ args, a.expr.isConst = true → R a)
    (hempty : isEmptySuffix func (args.map Argument.expr) = false) : ∀ a ∈ args, R a := by
  intro a ha
  cases const : a.expr.isConst with
  | true => exact hconst a ha const
  | false =>
    obtain ⟨x, hx⟩ := hasks.2.2 a (mem_written hempty ha const)
    exact h a ha x hx

/-- The condition that a call of a test becomes needs what its arguments need, unless it tests for
the empty text at the end. -/
theorem condition_needs (hfunc : func.isPredicate = true)
    (h : ∀ a ∈ args, a.scalar.Needs (R a)) (hconst : ∀ a ∈ args, a.expr.isConst = true → R a)
    (hempty : isEmptySuffix func (args.map Argument.expr) = false) :
    (condition d func args).Needs (∀ a ∈ args, R a) :=
  fun c hc => ((condition_succeeds hfunc).mp ⟨c, hc⟩).needs h hconst hempty

/-- The value that any other call becomes needs what its arguments need. -/
theorem scalar_needs (hfunc : func.isPredicate = false)
    (h : ∀ a ∈ args, a.scalar.Needs (R a)) (hconst : ∀ a ∈ args, a.expr.isConst = true → R a) :
    (scalar d func args).Needs (∀ a ∈ args, R a) := by
  have hempty : isEmptySuffix func (args.map Argument.expr) = false := by
    rw [Bool.eq_false_iff]
    intro hempty
    cases eq_endsWith_of_isEmptySuffix hempty
    cases hfunc
  exact fun x hx => ((scalar_succeeds hfunc).mp ⟨x, hx⟩).needs h hconst hempty

end Arguments

end Call

section Operators

open Emit (Needs)

variable {ctx : Context} {P Q : Prop} {op : BinaryOp} {l r : Expr}

/-- Both forms of an expression need a fact. -/
def Forms.Needs (f : Forms) (P : Prop) : Prop := f.condition.Needs P ∧ f.scalar.Needs P

/-- The forms of a condition need what the condition needs. -/
lemma Forms.ofCondition_needs {condition : Emit Cond} (h : condition.Needs P) :
    (Forms.ofCondition condition).Needs P :=
  ⟨h, h.first⟩

/-- The forms of a value need what the value needs. -/
lemma Forms.ofScalar_needs {e : Expr} {scalar : Emit Scalar} (h : scalar.Needs P) :
    (Forms.ofScalar ctx e scalar).Needs P := by
  refine ⟨?_, h⟩
  unfold Forms.ofScalar
  dsimp only
  split
  · exact .fail
  · exact h.first

/-- What holds of a constant and is needed otherwise is needed. -/
lemma Forms.unlessConstant_needs {e : Expr} {forms : Forms} (hconst : e.isConst = true → P)
    (h : e.isConst = false → forms.Needs P) : (Forms.unlessConstant e forms).Needs P := by
  unfold Forms.unlessConstant
  split
  case isTrue he => exact ⟨.of_true (hconst he), .of_true (hconst he)⟩
  case isFalse he => exact h (Bool.eq_false_iff.mpr he)

/-- A comparison with a constant needs what its operand needs. -/
lemma againstConstant_needs {operand : Emit Scalar} {e : Expr} (hx : operand.Needs P) :
    (againstConstant op operand e).Needs P := by
  unfold againstConstant
  refine .bind (.of_true trivial) fun v (_ : True) => ?_
  split
  · split
    · exact hx.first
    · exact hx.first
    · exact .fail
  · exact hx.first

/-- A comparison.  A constant is not written but for its value. -/
lemma comparison_needs {left right : Emit Scalar} (hl : left.Needs P) (hr : right.Needs Q)
    (hlconst : l.isConst = true → P) (hrconst : r.isConst = true → Q) :
    (comparison op l r left right).Needs (P ∧ Q) := by
  unfold comparison
  split
  case h_1 _ hconst =>
    refine (againstConstant_needs hl).mono fun hp => ?_
    exact ⟨hp, hrconst hconst⟩
  case h_2 hconst _ =>
    refine (againstConstant_needs hr).mono fun hq => ?_
    exact ⟨hlconst hconst, hq⟩
  case h_3 => exact hl.bind fun _ hp => hr.bind fun _ hq => .of_true ⟨hp, hq⟩

/-- A choice needs what its test and its results need. -/
lemma choice_needs {R : Prop} {test : Emit Cond} {yes no : Emit Scalar} (ht : test.Needs P)
    (hy : yes.Needs Q) (hn : no.Needs R) :
    Emit.Needs (do
      let test ← test
      let yes ← yes
      return chosen test yes (← no)) (P ∧ Q ∧ R) :=
  ht.bind fun _ hp => hy.bind fun _ hq => hn.bind fun _ hr => .of_true ⟨hp, hq, hr⟩

/-- A connective needs what its operands need. -/
lemma logical_needs {left right : Emit Cond} (hl : left.Needs P) (hr : right.Needs Q) :
    (logical op left right).Needs (P ∧ Q) :=
  hl.bind fun _ hp => hr.bind fun _ hq => .of_true ⟨hp, hq⟩

/-- Arithmetic needs what its operands need. -/
lemma arithmetic_needs {left right : Emit Scalar} (hl : left.Needs P) (hr : right.Needs Q) :
    (arithmetic ctx op l r left right).Needs (P ∧ Q) :=
  hl.bind fun _ hp => hr.bind fun _ hq => .of_true ⟨hp, hq⟩

/-- A test for membership in a list that is not empty needs what its operand needs. -/
lemma membership_needs {operand : Emit Scalar} {members : List Value} (hx : operand.Needs P)
    (hmembers : members.isEmpty = false) : (membership operand members).Needs P := by
  unfold membership
  dsimp only
  split
  case h_1 hpresent hnull =>
    cases (Value.any_isNull_of_present hmembers hpresent).symm.trans hnull
  all_goals exact hx.first

/-- What an optional condition needs, or what holds without it. -/
def NeedsIfPresent (o : Option (Emit Cond)) (P : Prop) : Prop :=
  match o with
  | none => P
  | some c => c.Needs P

/-- A condition that may be absent needs to succeed itself if it is present. -/
lemma needsIfPresent_self (o : Option (Emit Cond)) : NeedsIfPresent o (∀ c ∈ o, c.Succeeds) := by
  cases o with
  | none =>
    intro c hc
    cases hc
  | some c =>
    refine Emit.Needs.self.mono fun hc c' hc' => ?_
    cases hc'
    exact hc

/-- The conditions that are there need what each of them needs. -/
lemma presentConditions_needs (os : List (Option (Emit Cond) × Prop))
    (h : ∀ o ∈ os, NeedsIfPresent o.1 o.2) :
    (presentConditions (os.map Prod.fst)).Needs (∀ o ∈ os, o.2) := by
  induction os with
  | nil => exact .of_true (List.forall_mem_nil _)
  | cons o os ih =>
    have hos := ih fun p hp => h p (List.mem_cons_of_mem o hp)
    have ho := h o List.mem_cons_self
    obtain ⟨c?, P⟩ := o
    cases c? with
    | none => exact hos.mono fun hos => List.forall_mem_cons.mpr ⟨ho, hos⟩
    | some c =>
      have hc : c.Needs P := ho
      refine hc.bind fun _ hp => hos.bind fun _ hos => .of_true ?_
      exact List.forall_mem_cons.mpr ⟨hp, hos⟩

end Operators

section Queries

open Emit (Needs)

variable {ctx : Context} {q : Query} {P Q : Prop} {filter condition : Option (Emit Cond)}

/-- A statement needs what its filter needs. -/
lemma Select.of_needs (h : NeedsIfPresent filter P) : (Select.of ctx q filter).Needs P := by
  have hdirect : ∀ q, (Select.direct ctx q filter).Needs P := by
    intro q
    refine .bind (.of_true trivial) fun keys (_ : True) => ?_
    refine .bind (.of_true trivial) fun output (_ : True) => ?_
    have hfilters := presentConditions_needs [(filter, P)] (by simpa using h)
    exact hfilters.bind fun _ hp => .of_true (hp (filter, P) List.mem_cons_self)
  unfold Select.of
  split
  · exact (hdirect _).first
  · exact hdirect q

/-- Membership in a query needs what the operand and the filter of the query need. -/
lemma subqueryMembership_needs {operand : Emit Scalar} (hx : operand.Needs P)
    (hf : NeedsIfPresent filter Q) : (subqueryMembership ctx q operand filter).Needs (P ∧ Q) := by
  unfold subqueryMembership
  split
  · exact .fail
  · split
    · exact .fail
    · refine hx.bind fun _ hp => ?_
      split
      · exact .fail
      · exact (Select.of_needs hf).bind fun _ hq => .of_true ⟨hp, hq⟩

/-- Membership in a query that reads rows around it needs that its table is not among theirs. -/
lemma subqueryMembership_needs_free {operand : Emit Scalar} :
    (subqueryMembership ctx q operand filter).Needs
      ((ctx.isCorrelated q && ctx.readsTableOf q) = false) := by
  unfold subqueryMembership
  split
  · exact .fail
  split
  · exact .fail
  have hx : operand.Needs True := .of_true trivial
  refine hx.bind fun _ _ => ?_
  split
  case isTrue => exact .fail
  case isFalse h => exact .of_true (Bool.eq_false_iff.mpr h)

/-- Membership in a query needs the statement of the query, which has one column and no terminal. -/
lemma subqueryMembership_needs_select {operand : Emit Scalar} :
    (subqueryMembership ctx q operand filter).Needs
      (q.projection.length = 1 ∧ q.terminal.isSequence = true ∧
        (Select.of (ctx.inside q) q filter).Succeeds) := by
  unfold subqueryMembership
  split
  case isTrue => exact .fail
  case isFalse hcolumn =>
    split
    case isTrue => exact .fail
    case isFalse hsequence =>
      have hx : operand.Needs True := .of_true trivial
      refine hx.bind fun _ _ => ?_
      split
      case isTrue => exact .fail
      case isFalse =>
        refine Emit.Needs.bind .self fun _ hselect => .of_true ?_
        exact ⟨Decidable.not_not.mp hcolumn, by simpa using hsequence, hselect⟩

/-- Whether a query has a row needs that its table is not among those around. -/
lemma existence_needs_free :
    (existence ctx q filter condition).Needs (ctx.readsTableOf q = false) := by
  unfold existence
  split
  · exact .fail
  split
  · exact .fail
  split
  case isTrue => exact .fail
  case isFalse h => exact .of_true (Bool.eq_false_iff.mpr h)

/-- Whether a query has a row needs what the filter and the further condition need. -/
lemma existence_needs (hf : NeedsIfPresent filter P) (hc : NeedsIfPresent condition Q) :
    (existence ctx q filter condition).Needs (P ∧ Q) := by
  unfold existence
  split
  · exact .fail
  · split
    · exact .fail
    · split
      · exact .fail
      · have hboth := presentConditions_needs [(filter, P), (condition, Q)]
          (by simpa using ⟨hf, hc⟩)
        exact hboth.bind fun _ h => .of_true (by simpa using h)

end Queries

section Expressions

variable {ctx : Context} {P Q R : Prop} {f : Forms} {e l r test yes no : Expr} {q : Query}

/-- What holds anyway is needed. -/
lemma Forms.needs_true : f.Needs True := ⟨.of_true trivial, .of_true trivial⟩

/-- Forms that need a fact need what follows from it. -/
lemma Forms.Needs.mono (h : f.Needs P) (hpq : P → Q) : f.Needs Q := ⟨h.1.mono hpq, h.2.mono hpq⟩

/-- Forms that need a fact under an assumption need that the assumption gives it. -/
lemma Forms.Needs.imp {A : Prop} (h : A → f.Needs P) : f.Needs (A → P) :=
  ⟨fun c hc ha => (h ha).1 c hc, fun x hx ha => (h ha).2 x hx⟩

/-- An operator of one operand needs what its operand needs. -/
lemma formsOf_unary_needs {op : UnaryOp} (he : (formsOf e ctx).Needs P)
    (hconst : e.isConst = true → P) : (formsOf (.unary op e) ctx).Needs P := by
  refine Forms.unlessConstant_needs hconst fun _ => ?_
  cases op with
  | not => exact Forms.ofCondition_needs he.1.first
  | negate | bitwiseNot => exact Forms.ofScalar_needs he.2.first

/-- An operator of two operands needs what they need. -/
lemma formsOf_binary_needs {op : BinaryOp} (hl : (formsOf l ctx).Needs P)
    (hr : (formsOf r ctx).Needs Q) (hlconst : l.isConst = true → P)
    (hrconst : r.isConst = true → Q) : (formsOf (.binary op l r) ctx).Needs (P ∧ Q) := by
  have hconst : (Expr.binary op l r).isConst = true → P ∧ Q := by
    intro h
    obtain ⟨hcl, hcr⟩ := Bool.and_eq_true_iff.mp h
    exact ⟨hlconst hcl, hrconst hcr⟩
  refine Forms.unlessConstant_needs hconst fun _ => ?_
  split
  case isTrue => exact Forms.ofCondition_needs (logical_needs hl.1 hr.1)
  case isFalse =>
    split
    case isTrue => exact Forms.ofCondition_needs (comparison_needs hl.2 hr.2 hlconst hrconst)
    case isFalse => exact Forms.ofScalar_needs (arithmetic_needs hl.2 hr.2)

/-- A conversion needs what its operand needs. -/
lemma formsOf_cast_needs {ty : ColumnType} {implicit : Bool} (he : (formsOf e ctx).Needs P)
    (hconst : e.isConst = true → P) : (formsOf (.cast e ty implicit) ctx).Needs P := by
  have hwhole : (Expr.cast e ty implicit).isConst = true → P := hconst
  rw [formsOf]
  split
  case isTrue =>
    exact ⟨(Forms.unlessConstant_needs hwhole fun _ => Forms.ofScalar_needs he.2).1, he.2⟩
  case isFalse =>
    refine Forms.unlessConstant_needs hwhole fun _ => ?_
    exact Forms.ofScalar_needs (Call.castTo_needs he.2)

/-- A choice needs what its test and its results need. -/
lemma formsOf_conditional_needs (ht : (formsOf test ctx).Needs P) (hy : (formsOf yes ctx).Needs Q)
    (hn : (formsOf no ctx).Needs R) (htconst : test.isConst = true → P)
    (hyconst : yes.isConst = true → Q) (hnconst : no.isConst = true → R) :
    (formsOf (.conditional test yes no) ctx).Needs (P ∧ Q ∧ R) := by
  have hconst : (Expr.conditional test yes no).isConst = true → P ∧ Q ∧ R := by
    intro h
    obtain ⟨hbranches, hcn⟩ := Bool.and_eq_true_iff.mp h
    obtain ⟨hct, hcy⟩ := Bool.and_eq_true_iff.mp hbranches
    exact ⟨htconst hct, hyconst hcy, hnconst hcn⟩
  refine Forms.unlessConstant_needs hconst fun _ => ?_
  exact Forms.ofScalar_needs (choice_needs ht.1 hy.2 hn.2)

/-- A call needs whatever follows from what it asks of its arguments. -/
lemma formsOf_call_needs_asked {func : Func} {args : List Expr}
    (hcall : (Expr.call func args).isConst = false)
    (h : Call.Asks func (argumentForms args ctx) (fun a => a.scalar.Succeeds) → P) :
    (formsOf (.call func args) ctx).Needs P := by
  refine Forms.unlessConstant_needs (fun hconst => nomatch hconst.symm.trans hcall) fun _ => ?_
  split
  case isTrue hfunc =>
    exact Forms.ofCondition_needs fun c hc => h ((Call.condition_succeeds hfunc).mp ⟨c, hc⟩)
  case isFalse hfunc =>
    have hvalue : func.isPredicate = false := Bool.eq_false_iff.mpr hfunc
    exact Forms.ofScalar_needs fun x hx => h ((Call.scalar_succeeds hvalue).mp ⟨x, hx⟩)

/-- A call needs what its arguments need, unless it tests for the empty text at the end. -/
lemma formsOf_call_needs {func : Func} {args : List Expr} {R : Expr → Prop}
    (hargs : ∀ e ∈ args, (formsOf e ctx).Needs (R e)) (hconst : ∀ e ∈ args, e.isConst = true → R e)
    (hempty : isEmptySuffix func args = false) :
    (formsOf (.call func args) ctx).Needs (∀ e ∈ args, R e) := by
  have hall : (Expr.call func args).isConst = true → ∀ e ∈ args, R e := by
    intro h e he
    exact hconst e he (areConst_iff.mp (Bool.and_eq_true_iff.mp h).2 e he)
  have hneeds : ∀ a ∈ argumentForms args ctx, a.scalar.Needs (R a.expr) := by
    rw [argumentForms_eq_map]
    exact List.forall_mem_map.mpr fun e he => (hargs e he).2
  -- Some arguments are only folded and not written; a constant needs nothing to be resolved.
  have hfixed : ∀ a ∈ argumentForms args ctx, a.expr.isConst = true → R a.expr := by
    rw [argumentForms_eq_map]
    exact List.forall_mem_map.mpr hconst
  have hresult : (∀ a ∈ argumentForms args ctx, R a.expr) → ∀ e ∈ args, R e := by
    rw [argumentForms_eq_map]
    exact List.forall_mem_map.mp
  refine Forms.unlessConstant_needs hall fun _ => ?_
  split
  case isTrue hfunc =>
    refine Forms.ofCondition_needs (.mono (Call.condition_needs hfunc hneeds hfixed ?_) hresult)
    rw [argumentForms_expr]
    exact hempty
  case isFalse hfunc =>
    have hvalue : func.isPredicate = false := Bool.eq_false_iff.mpr hfunc
    exact Forms.ofScalar_needs ((Call.scalar_needs hvalue hneeds hfixed).mono hresult)

/-- A call needs what one of its arguments needs, unless it tests for the empty text at the end. -/
lemma formsOf_argument_needs {func : Func} {args : List Expr} (hmem : e ∈ args)
    (he : (formsOf e ctx).Needs P) (hconst : e.isConst = true → P)
    (hempty : isEmptySuffix func args = false) : (formsOf (.call func args) ctx).Needs P := by
  have hargs : ∀ a ∈ args, (formsOf a ctx).Needs (a = e → P) := fun a _ => .imp fun h => h ▸ he
  have hfixed : ∀ a ∈ args, a.isConst = true → a = e → P := fun a _ ha h => hconst (h ▸ ha)
  exact (formsOf_call_needs hargs hfixed hempty).mono fun hall => hall e hmem rfl

/-- A test for membership in a list needs what its operand needs, unless the list is empty. -/
lemma formsOf_inList_needs {members : List Value} (he : (formsOf e ctx).Needs P)
    (hconst : e.isConst = true → P) (hmembers : members.isEmpty = false) :
    (formsOf (.inList e members) ctx).Needs P :=
  Forms.unlessConstant_needs hconst fun _ =>
    Forms.ofCondition_needs (membership_needs he.2 hmembers)

/-- A test for membership in a query needs what its operand and the query's filter need. -/
lemma formsOf_inSubquery_needs (he : (formsOf e ctx).Needs P)
    (hq : NeedsIfPresent (queryFilter q (ctx.inside q)) Q) :
    (formsOf (.inSubquery e q) ctx).Needs (P ∧ Q) :=
  Forms.ofCondition_needs (subqueryMembership_needs he.2 hq)

/-- A test for existence needs what the query's filter and the condition need. -/
lemma formsOf_exists_needs {condition : Option Expr}
    (hq : NeedsIfPresent (queryFilter q (ctx.enter q true)) P)
    (hc : NeedsIfPresent (optionCondition condition (ctx.enter q true)) Q) :
    (formsOf (.exists q condition) ctx).Needs (P ∧ Q) :=
  Forms.ofCondition_needs (existence_needs hq hc)

end Expressions

end Sql

end TableQuery
