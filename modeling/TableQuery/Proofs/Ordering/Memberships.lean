import TableQuery.Proofs.Ordering.Calls

/-!
# Queries inside expressions

The queries in which an expression tests for membership, at any depth and also inside queries that
are tested for rows (`Expr.memberships`).  Only these queries come with their orderings and limits:
the statement that tests for a row has none.  Operands that a form leaves out are not compiled, so
the queries inside them do not count.

The statements inside the two forms of an expression may stand there just if each of these queries
is sorted only as a page and fetches rows (`formsOf_allow`).
-/

namespace TableQuery

/-- Whether a query that is not a page has no orderings. -/
def Query.SortsPage (q : Query) : Prop := q.orderings ≠ [] → q.isPaged = true

/-- Whether a query that skips rows does not limit the others to none. -/
def Query.FetchesRows (q : Query) : Prop := q.skip.isSome = true → q.effectiveTake ≠ some 0

mutual

/-- The queries in which an expression tests for membership. -/
def Expr.memberships : Expr → List Query
  | .value _ | .column _ => []
  | .unary _ e | .cast e _ _ => e.memberships
  | .binary _ l r => l.memberships ++ r.memberships
  | .conditional test yes no => test.memberships ++ (yes.memberships ++ no.memberships)
  | .call func args => if Sql.isEmptySuffix func args then [] else membershipsAmong args
  | .inList e members => if members.isEmpty then [] else e.memberships
  | .inSubquery e q => e.memberships ++ q :: q.memberships
  | .exists q condition => q.memberships ++ optionMemberships condition

/-- The queries in which several expressions test for membership. -/
def membershipsAmong : List Expr → List Query
  | [] => []
  | e :: es => e.memberships ++ membershipsAmong es

/-- The queries in which an expression that may be absent tests for membership. -/
def optionMemberships : Option Expr → List Query
  | none => []
  | some e => e.memberships

/-- The queries in which the filter of a query tests for membership. -/
def Query.memberships : Query → List Query
  | { predicate, .. } => optionMemberships predicate

end

mutual

/-- A constant tests for membership in no query. -/
theorem Expr.memberships_of_isConst : (e : Expr) → e.isConst = true → e.memberships = []
  | .value _, _ => rfl
  | .unary _ e, h | .cast e _ _, h => by
    rw [Expr.isConst] at h
    rw [Expr.memberships, Expr.memberships_of_isConst e h]
  | .binary _ l r, h => by
    rw [Expr.isConst, Bool.and_eq_true] at h
    rw [Expr.memberships, Expr.memberships_of_isConst l h.1, Expr.memberships_of_isConst r h.2]
    rfl
  | .conditional test yes no, h => by
    rw [Expr.isConst, Bool.and_eq_true, Bool.and_eq_true] at h
    rw [Expr.memberships, Expr.memberships_of_isConst test h.1.1,
      Expr.memberships_of_isConst yes h.1.2, Expr.memberships_of_isConst no h.2]
    rfl
  | .call func args, h => by
    rw [Expr.isConst, Bool.and_eq_true] at h
    rw [Expr.memberships, membershipsAmong_of_areConst args h.2, ite_self]
  | .inList e members, h => by
    rw [Expr.isConst] at h
    rw [Expr.memberships, Expr.memberships_of_isConst e h, ite_self]

/-- There are no memberships among constants. -/
theorem membershipsAmong_of_areConst :
    (es : List Expr) → Expr.areConst es = true → membershipsAmong es = []
  | [], _ => rfl
  | e :: es, h => by
    rw [Expr.areConst, Bool.and_eq_true] at h
    rw [membershipsAmong, Expr.memberships_of_isConst e h.1, membershipsAmong_of_areConst es h.2]
    rfl

end

namespace Sql

open Emit (Allows)

/-- Whether each of some queries is sorted only as a page and fetches rows. -/
def AllSortPages (qs : List Query) : Prop := ∀ q ∈ qs, q.SortsPage ∧ q.FetchesRows

/-- No queries sort their pages. -/
@[simp] lemma allSortPages_nil : AllSortPages [] := List.forall_mem_nil _

/-- Queries of two lists sort their pages if those of each list do. -/
@[simp] lemma allSortPages_append {qs rs : List Query} :
    AllSortPages (qs ++ rs) ↔ AllSortPages qs ∧ AllSortPages rs := List.forall_mem_append

/-- Queries sort their pages if the first one and the others do. -/
@[simp] lemma allSortPages_cons {q : Query} {qs : List Query} :
    AllSortPages (q :: qs) ↔ (q.SortsPage ∧ q.FetchesRows) ∧ AllSortPages qs :=
  List.forall_mem_cons

/-- There are no memberships in a constant. -/
lemma allSortPages_of_isConst (e : Expr) (h : e.isConst = true) : AllSortPages e.memberships := by
  rw [Expr.memberships_of_isConst e h]
  exact allSortPages_nil

/-- The memberships in arguments are those among the operands. -/
lemma allSortPages_argumentForms (es : List Expr) (ctx : Context) :
    (∀ a ∈ argumentForms es ctx, AllSortPages a.expr.memberships) ↔
      AllSortPages (membershipsAmong es) := by
  induction es with
  | nil => exact iff_of_true (List.forall_mem_nil _) allSortPages_nil
  | cons e es ih =>
    rw [argumentForms, List.forall_mem_cons, ih, membershipsAmong, allSortPages_append]

section Statements

variable {ctx : Context} {q : Query} {P Q : Prop} {filter condition : Option (Emit Cond)}

/-- A statement sorts by nothing just if there are no keys. -/
lemma orderTerms_eq_nil {keys : List SortKey} {order : List OrderTerm}
    (h : keys.mapM (OrderTerm.of ctx q) = .ok order) : order = [] ↔ keys = [] := by
  constructor
  · rintro rfl
    exact eq_nil_of_mapM_ok h
  · rintro rfl
    cases h
    rfl

/-- A query without a terminal is sorted just if it has orderings or skips rows. -/
lemma sortKeys_of_sequence {keys : List SortKey} (hq : q.terminal = .sequence)
    (h : q.sortKeys = .ok keys) : keys = [] ↔ q.orderings = [] ∧ q.skip = none := by
  obtain ⟨rfl, hunsorted⟩ | ⟨ks, rfl, hks⟩ := q.sortKeys_cases h
  · rw [hq] at hunsorted
    obtain hcount | ⟨hany, -⟩ := hunsorted
    · cases hcount
    · cases hany
  · rw [hq]
    obtain ⟨rfl, hown⟩ | ⟨i, -, rfl, -, hneeded⟩ := hks
    · exact (and_iff_left_of_imp fun hnil => (hown hnil).1).symm
    · rw [hq] at hneeded
      obtain hskip | hlast := hneeded
      · refine iff_of_false (List.cons_ne_nil _ _) fun h => ?_
        rw [h.2] at hskip
        cases hskip
      · cases hlast

/-- What a condition that may be absent allows. -/
def OptionAllows (o : Option (Emit Cond)) (P : Prop) : Prop :=
  match o with
  | none => P
  | some c => c.Allows Cond.nested P

/-- The conditions that are there. -/
lemma presentConditions_allows (os : List (Option (Emit Cond) × Prop))
    (h : ∀ o ∈ os, OptionAllows o.1 o.2) :
    (presentConditions (os.map Prod.fst)).Allows condsNested (∀ o ∈ os, o.2) := by
  induction os with
  | nil => exact .pure (iff_of_true allLawful_nil (List.forall_mem_nil _))
  | cons o os ih =>
    obtain ⟨ho, hos⟩ := List.forall_mem_cons.mp h
    rw [List.forall_mem_cons]
    obtain ⟨c?, P⟩ := o
    cases c? with
    | none => exact (ih hos).congr (and_iff_right ho).symm
    | some c =>
      have hc : c.Allows Cond.nested P := ho
      exact hc.map₂ (ih hos) fun _ _ => by simp

/-- A statement fetches rows just if the query does, and without a terminal it is sorted only with a
row limit just if the query is sorted only as a page. -/
lemma Select.direct_allows (hd : ctx.dialect = .sqlServer) (hf : OptionAllows filter P) :
    (Select.direct ctx q filter).Gives fun s _ =>
      (AllLawful s.nested ↔ P) ∧ (s.FetchesSome ↔ q.FetchesRows) ∧
        (q.terminal = .sequence → (s.SortsLimited ↔ q.SortsPage)) := by
  unfold Select.direct
  refine .lift_bind fun keys hkeys => .lift_bind fun output _ => ?_
  have hfilters := presentConditions_allows [(filter, P)] (List.forall_mem_singleton.mpr hf)
  refine Emit.Gives.bind hfilters fun filters _ hfilters => ?_
  refine .lift_bind fun order horder => .pure ⟨?_, ?_, ?_⟩
  · rw [Select.nested_eq]
    simpa using hfilters
  · rw [hd]
    cases hskip : q.skip with
    | none => simp [FetchesSome, Query.FetchesRows, Limit.of, hskip]
    | some n => simp [FetchesSome, Query.FetchesRows, Limit.of, hskip]
  · intro hq
    have htake : q.effectiveTake = q.take := by
      rw [Query.effectiveTake, hq]
      cases q.take <;> rfl
    have hnil := (orderTerms_eq_nil horder).trans (sortKeys_of_sequence hq hkeys)
    rw [hd, htake]
    cases hskip : q.skip with
    | none =>
      simp [SortsLimited, Query.SortsPage, Query.isPaged, topOf, Limit.of, hnil, hskip,
        Dialect.isSqlServer, Option.isSome_iff_ne_none]
    | some n => simp [SortsLimited, Query.SortsPage, Query.isPaged, Limit.of, hskip]

/-- Membership in a query allows what the operand and the filter allow, if the query is sorted only
as a page and fetches rows. -/
lemma subqueryMembership_allows {operand : Emit Scalar} (hd : ctx.dialect = .sqlServer)
    (hx : operand.Allows Scalar.nested P) (hf : OptionAllows filter Q) :
    (subqueryMembership ctx q operand filter).Allows Cond.nested
      (P ∧ (q.SortsPage ∧ q.FetchesRows) ∧ Q) := by
  unfold subqueryMembership
  split
  · exact .fail
  split
  · exact .fail
  next hterminal =>
    have hq : q.terminal = .sequence := by simpa [Terminal.isSequence] using hterminal
    refine hx.bind fun x hx => ?_
    split
    · exact .fail
    have hdirect : Select.of (ctx.inside q) q filter = Select.direct (ctx.inside q) q filter := by
      rw [Select.of, hq]
      rfl
    have hd' : (ctx.inside q).dialect = .sqlServer := hd
    rw [hdirect]
    refine Emit.Gives.bind (Select.direct_allows hd' hf) ?_
    rintro s _ ⟨hnested, hfetches, hsorts⟩
    refine .pure ?_
    simp only [Cond.nested, allLawful_append, allLawful_cons, hx, hnested, Select.Lawful, hsorts hq,
      hfetches]

/-- The statement that tests for a row is not sorted and has no row limit. -/
lemma existence_allows (hf : OptionAllows filter P) (hc : OptionAllows condition Q) :
    (existence ctx q filter condition).Allows Cond.nested (P ∧ Q) := by
  unfold existence
  split
  · exact .fail
  split
  · exact .fail
  split
  · exact .fail
  have hboth := presentConditions_allows [(filter, P), (condition, Q)] (by simpa using ⟨hf, hc⟩)
  refine hboth.bind fun filters hfilters => .pure ?_
  simp [Select.nested_eq, hfilters, Select.Lawful, Select.SortsLimited, Select.FetchesSome]

end Statements

section Operators

variable {ctx : Context} {P Q : Prop} {op : BinaryOp} {l r : Expr}

/-- Both forms of an expression allow a fact. -/
def Forms.Allow (f : Forms) (P : Prop) : Prop :=
  f.condition.Allows Cond.nested P ∧ f.scalar.Allows Scalar.nested P

/-- The forms of a condition. -/
lemma Forms.ofCondition_allow {condition : Emit Cond} (h : condition.Allows Cond.nested P) :
    (Forms.ofCondition condition).Allow P :=
  ⟨h, h.map fun _ => by simp [chosen]⟩

/-- The forms of a value. -/
lemma Forms.ofScalar_allow {e : Expr} {scalar : Emit Scalar} (h : scalar.Allows Scalar.nested P) :
    (Forms.ofScalar ctx e scalar).Allow P := by
  refine ⟨?_, h⟩
  unfold Forms.ofScalar
  dsimp only
  split
  · exact .fail
  · exact h.map fun _ => by simp [compared]

/-- The forms of a constant. -/
lemma Forms.ofConstant_allow (e : Expr) : (Forms.ofConstant e).Allow True := by
  constructor
  · refine .lift_bind fun v _ => ?_
    cases v with
    | bool b => exact .pure (by simp [truth])
    | _ => exact .fail
  · exact .lift_bind fun v _ => literal_allows v

/-- The forms of what may be constant. -/
lemma Forms.unlessConstant_allow {e : Expr} {forms : Forms} (hconst : e.isConst = true → P)
    (h : forms.Allow P) : (Forms.unlessConstant e forms).Allow P := by
  unfold Forms.unlessConstant
  split
  case isTrue he =>
    have htrue : True ↔ P := iff_of_true trivial (hconst he)
    obtain ⟨hcondition, hscalar⟩ := Forms.ofConstant_allow e
    exact ⟨hcondition.congr htrue, hscalar.congr htrue⟩
  case isFalse => exact h

/-- A comparison with a constant. -/
lemma againstConstant_allows {operand : Emit Scalar} {e : Expr}
    (hx : operand.Allows Scalar.nested P) :
    (againstConstant op operand e).Allows Cond.nested P := by
  unfold againstConstant
  refine .lift_bind fun v _ => ?_
  split
  · split
    · exact hx.map fun _ => by simp
    · exact hx.map fun _ => by simp
    · exact .fail
  · exact (hx.map₂ (literal_allows v) fun _ _ => by simp [compared]).congr (and_iff_left trivial)

/-- A comparison.  A constant is not written but for its value. -/
lemma comparison_allows {left right : Emit Scalar} (hl : left.Allows Scalar.nested P)
    (hr : right.Allows Scalar.nested Q) (hlconst : l.isConst = true → P)
    (hrconst : r.isConst = true → Q) :
    (comparison op l r left right).Allows Cond.nested (P ∧ Q) := by
  unfold comparison
  split
  case h_1 _ hconst => exact (againstConstant_allows hl).congr (and_iff_left (hrconst hconst)).symm
  case h_2 hconst _ =>
    exact (againstConstant_allows hr).congr (and_iff_right (hlconst hconst)).symm
  case h_3 => exact hl.map₂ hr fun _ _ => by simp [compared]

/-- A connective of two conditions. -/
lemma logical_allows {left right : Emit Cond} (hl : left.Allows Cond.nested P)
    (hr : right.Allows Cond.nested Q) : (logical op left right).Allows Cond.nested (P ∧ Q) :=
  hl.map₂ hr fun _ _ => by split <;> simp

/-- A computed value.  SQLite writes the operands of an exclusive or twice. -/
lemma arithmetic_allows {left right : Emit Scalar} (hl : left.Allows Scalar.nested P)
    (hr : right.Allows Scalar.nested Q) :
    (arithmetic ctx op l r left right).Allows Scalar.nested (P ∧ Q) := by
  unfold arithmetic
  refine hl.bind fun x hx => hr.bind fun y hy => ?_
  split
  · exact .pure (by simp [hx, hy])
  split
  · exact .pure (by simp [hx, hy])
  split
  · refine hl.bind fun x' hx' => hr.bind fun y' hy' => .pure ?_
    simp only [grouped, Scalar.nested, allLawful_append, hx, hy, hx', hy', and_self_iff]
  · exact .pure (by simp [grouped, hx, hy])

/-- Literals have no statements in them. -/
lemma literals_allow (vs : List Value) : (literals vs).Allows scalarsNested True := by
  induction vs with
  | nil => exact .pure (iff_of_true allLawful_nil trivial)
  | cons v vs ih =>
    exact ((literal_allows v).map₂ ih fun _ _ => by simp).congr (and_iff_left trivial)

/-- A test for membership in a list that is not empty. -/
lemma membership_allows {operand : Emit Scalar} {members : List Value}
    (hx : operand.Allows Scalar.nested P) (hmembers : members.isEmpty = false) :
    (membership operand members).Allows Cond.nested P := by
  unfold membership
  dsimp only
  have hliterals := literals_allow (Value.present members)
  split
  case h_1 hpresent hnull =>
    cases (Value.any_isNull_of_present hmembers hpresent).symm.trans hnull
  case h_2 => exact hx.map fun _ => by simp
  case h_3 => exact (hx.map₂ hliterals fun _ _ => by simp).congr (and_iff_left trivial)
  case h_4 =>
    refine hx.bind fun x hx => hliterals.bind fun xs hxs => ?_
    refine Allows.bind ‹operand.Allows Scalar.nested P› fun y hy => .pure ?_
    simp [hx, hxs, hy]

end Operators

mutual

/-- The statements inside the forms of an expression may stand there just if each query in which the
expression tests for membership is sorted only as a page and fetches rows. -/
theorem formsOf_allow :
    (e : Expr) → (ctx : Context) → ctx.dialect = .sqlServer →
      (formsOf e ctx).Allow (AllSortPages e.memberships)
  | .value v, ctx, _ => by
    have h := Forms.ofConstant_allow (.value v)
    have htrue : True ↔ AllSortPages (Expr.value v).memberships := by simp [Expr.memberships]
    exact ⟨h.1.congr htrue, h.2.congr htrue⟩
  | .column ref, ctx, _ => by
    refine Forms.ofScalar_allow (.lift_bind fun c _ => .pure ?_)
    simp [Expr.memberships]
  | .unary op e, ctx, hd => by
    have he := formsOf_allow e ctx hd
    refine Forms.unlessConstant_allow (allSortPages_of_isConst _) ?_
    cases op with
    | not => exact Forms.ofCondition_allow (he.1.map fun _ => by simp)
    | negate => exact Forms.ofScalar_allow (he.2.map fun _ => by simp)
    | bitwiseNot => exact Forms.ofScalar_allow (he.2.map fun _ => by simp)
  | .binary op l r, ctx, hd => by
    have hl := formsOf_allow l ctx hd
    have hr := formsOf_allow r ctx hd
    refine Forms.unlessConstant_allow (allSortPages_of_isConst _) ?_
    rw [Expr.memberships, allSortPages_append]
    split
    · exact Forms.ofCondition_allow (logical_allows hl.1 hr.1)
    split
    · exact Forms.ofCondition_allow (comparison_allows hl.2 hr.2 (allSortPages_of_isConst l)
        (allSortPages_of_isConst r))
    · exact Forms.ofScalar_allow (arithmetic_allows hl.2 hr.2)
  | .cast e ty implicit, ctx, hd => by
    have he := formsOf_allow e ctx hd
    have hwhole : ∀ x : Emit Scalar, x.Allows Scalar.nested (AllSortPages e.memberships) →
        (Forms.unlessConstant (.cast e ty implicit)
          (Forms.ofScalar ctx (.cast e ty implicit) x)).Allow (AllSortPages e.memberships) :=
      fun x hx => Forms.unlessConstant_allow (allSortPages_of_isConst (.cast e ty implicit))
        (Forms.ofScalar_allow hx)
    rw [formsOf, Expr.memberships]
    split
    · exact ⟨(hwhole _ he.2).1, he.2⟩
    · exact hwhole _ (Call.castTo_allows he.2)
  | .conditional test yes no, ctx, hd => by
    have ht := formsOf_allow test ctx hd
    have hy := formsOf_allow yes ctx hd
    have hn := formsOf_allow no ctx hd
    refine Forms.unlessConstant_allow (allSortPages_of_isConst _) (Forms.ofScalar_allow ?_)
    refine ht.1.bind fun c hc => hy.2.bind fun y hy => hn.2.bind fun n hn => .pure ?_
    simp [Expr.memberships, chosen, hc, hy, hn]
  | .call func args, ctx, hd => by
    refine Forms.unlessConstant_allow (allSortPages_of_isConst _) ?_
    have hargs := arguments_allow args ctx hd
    have hconst : ∀ a ∈ argumentForms args ctx, a.expr.isConst = true →
        AllSortPages a.expr.memberships := fun a _ => allSortPages_of_isConst a.expr
    rw [Expr.memberships]
    -- A test for the empty suffix writes none of its arguments, so it allows whatever stands in
    -- them.
    cases hempty : isEmptySuffix func args with
    | true =>
      have hpredicate : func.isPredicate = true := by rw [eq_endsWith_of_isEmptySuffix hempty]; rfl
      rw [if_pos hpredicate, Call.condition_of_isEmptySuffix (by rwa [argumentForms_expr])]
      exact Forms.ofCondition_allow (.pure (by simp [truth]))
    | false =>
      have hempty' : isEmptySuffix func ((argumentForms args ctx).map Argument.expr) = false := by
        rwa [argumentForms_expr]
      simp only [Bool.false_eq_true, if_false]
      rw [← allSortPages_argumentForms args ctx]
      split
      · exact Forms.ofCondition_allow (Call.condition_allows hargs hconst hempty')
      · exact Forms.ofScalar_allow (Call.scalar_allows hargs hconst)
  | .inList e members, ctx, hd => by
    have he := formsOf_allow e ctx hd
    refine Forms.unlessConstant_allow (allSortPages_of_isConst _) (Forms.ofCondition_allow ?_)
    rw [Expr.memberships]
    cases hmembers : members.isEmpty with
    | true =>
      obtain rfl := List.isEmpty_iff.mp hmembers
      exact .pure (by simp [truth])
    | false => exact membership_allows he.2 hmembers
  | .inSubquery e q, ctx, hd => by
    have he := formsOf_allow e ctx hd
    have hq := queryFilter_allows q (ctx.inside q) hd
    refine Forms.ofCondition_allow ((subqueryMembership_allows hd he.2 hq).congr ?_)
    simp [Expr.memberships]
  | .exists q condition, ctx, hd => by
    have hq := queryFilter_allows q (ctx.enter q true) hd
    have hc := optionCondition_allows condition (ctx.enter q true) hd
    refine Forms.ofCondition_allow ((existence_allows hq hc).congr ?_)
    simp [Expr.memberships]

/-- The arguments of a call. -/
theorem arguments_allow :
    (es : List Expr) → (ctx : Context) → ctx.dialect = .sqlServer →
      ∀ a ∈ argumentForms es ctx, a.scalar.Allows Scalar.nested (AllSortPages a.expr.memberships)
  | [], _, _ => List.forall_mem_nil _
  | e :: es, ctx, hd =>
    List.forall_mem_cons.mpr ⟨(formsOf_allow e ctx hd).2, arguments_allow es ctx hd⟩

/-- A condition that may be absent. -/
theorem optionCondition_allows :
    (o : Option Expr) → (ctx : Context) → ctx.dialect = .sqlServer →
      OptionAllows (optionCondition o ctx) (AllSortPages (optionMemberships o))
  | none, _, _ => allSortPages_nil
  | some e, ctx, hd => (formsOf_allow e ctx hd).1

/-- The filter of a query. -/
theorem queryFilter_allows :
    (q : Query) → (ctx : Context) → ctx.dialect = .sqlServer →
      OptionAllows (queryFilter q ctx) (AllSortPages q.memberships)
  | { predicate, .. }, ctx, hd => optionCondition_allows predicate ctx hd

end

end Sql

end TableQuery
