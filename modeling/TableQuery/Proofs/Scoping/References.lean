import TableQuery.Proofs.Emission.Needs
import TableQuery.Proofs.Scoping.Resolution

/-!
# Column references are resolved

A column reference is resolved when it is written: it must carry the identity of a row in reach and
the index of a column of the table of that row (`Site.Resolves`).  So a query that compiles has
resolved every reference that is written (`references_resolve`).  These are all references of its
filter, at any depth, but for two operands that are not written because the test that they stand in
does not depend on them: nothing is a member of the empty list, and every text ends with the empty
text.

Both forms of an expression need the references of the expression to be resolved, by induction on
the expression (`formsOf_needs`).
-/

namespace TableQuery.Sql

/-- A column reference can be resolved where it stands. -/
def Site.Resolves (s : Site) : Prop :=
  ∃ scope column, s.place.scope? s.ref.source = some scope ∧
    scope.table.column? s.ref.column = some column

mutual

/-- The column references that are written for an expression, with the places where they stand. -/
def exprReferences : Expr → Context → List Site
  | .value _, _ => []
  | .column ref, ctx => [⟨ctx, ref⟩]
  | .unary _ e, ctx | .cast e _ _, ctx => exprReferences e ctx
  | .inList e members, ctx => if members.isEmpty then [] else exprReferences e ctx
  | .binary _ l r, ctx => exprReferences l ctx ++ exprReferences r ctx
  | .conditional test yes no, ctx =>
    exprReferences test ctx ++ exprReferences yes ctx ++ exprReferences no ctx
  | .call func args, ctx => listReferences (isEmptySuffix func args) args ctx
  | .inSubquery e q, ctx => exprReferences e ctx ++ queryReferences q (ctx.inside q)
  | .exists q condition, ctx =>
    queryReferences q (ctx.enter q true) ++ optionReferences condition (ctx.enter q true)

/-- The column references that are written for several expressions, perhaps without the first. -/
def listReferences : Bool → List Expr → Context → List Site
  | _, [], _ => []
  | unused, e :: es, ctx =>
    (if unused then [] else exprReferences e ctx) ++ listReferences false es ctx

/-- The column references that are written for an expression that may be absent. -/
def optionReferences : Option Expr → Context → List Site
  | none, _ => []
  | some e, ctx => exprReferences e ctx

/-- The column references that are written for the filter of a query. -/
def queryReferences : Query → Context → List Site
  | { predicate, .. }, ctx => optionReferences predicate ctx

end

mutual

/-- Whether all operands of an expression are written: it has no test for membership in the empty
list or for the empty text at the end, at any depth. -/
def exprComplete : Expr → Bool
  | .value _ | .column _ => true
  | .unary _ e | .cast e _ _ => exprComplete e
  | .inList e members => !members.isEmpty && exprComplete e
  | .binary _ l r => exprComplete l && exprComplete r
  | .conditional test yes no => exprComplete test && exprComplete yes && exprComplete no
  | .call func args => !isEmptySuffix func args && listComplete args
  | .inSubquery e q => exprComplete e && queryComplete q
  | .exists q condition => queryComplete q && optionComplete condition

/-- Whether all operands of several expressions are written. -/
def listComplete : List Expr → Bool
  | [] => true
  | e :: es => exprComplete e && listComplete es

/-- Whether all operands of an expression are written that may be absent. -/
def optionComplete : Option Expr → Bool
  | none => true
  | some e => exprComplete e

/-- Whether all operands of the filter of a query are written. -/
def queryComplete : Query → Bool
  | { predicate, .. } => optionComplete predicate

end

section Traversal

mutual

/-- The references of an expression whose operands are all written are its columns. -/
theorem exprReferences_refs : (e : Expr) → (ctx : Context) → exprComplete e = true →
    (exprReferences e ctx).map Site.ref = e.columns
  | .value _, _, _ => rfl
  | .column _, _, _ => rfl
  | .unary _ e, ctx, h | .cast e _ _, ctx, h => exprReferences_refs e ctx h
  | .inList e members, ctx, h => by
    simp only [exprComplete, Bool.and_eq_true, Bool.not_eq_true'] at h
    rw [exprReferences, h.1, if_neg Bool.false_ne_true]
    exact exprReferences_refs e ctx h.2
  | .binary _ l r, ctx, h => by
    simp only [exprComplete, Bool.and_eq_true] at h
    have hl := exprReferences_refs l ctx h.1
    have hr := exprReferences_refs r ctx h.2
    simp only [exprReferences, Expr.columns, Expr.leaves, List.map_append, List.filterMap_append]
    exact congr (congrArg _ hl) hr
  | .conditional test yes no, ctx, h => by
    simp only [exprComplete, Bool.and_eq_true] at h
    have ht := exprReferences_refs test ctx h.1.1
    have hy := exprReferences_refs yes ctx h.1.2
    have hn := exprReferences_refs no ctx h.2
    simp only [exprReferences, Expr.columns, Expr.leaves, List.map_append, List.filterMap_append]
    exact congr (congrArg _ (congr (congrArg _ ht) hy)) hn
  | .call func args, ctx, h => by
    simp only [exprComplete, Bool.and_eq_true, Bool.not_eq_true'] at h
    rw [exprReferences, h.1]
    exact listReferences_refs args ctx h.2
  | .inSubquery e q, ctx, h => by
    simp only [exprComplete, Bool.and_eq_true] at h
    have he := exprReferences_refs e ctx h.1
    have hq := queryReferences_refs q (ctx.inside q) h.2
    simp only [exprReferences, Expr.columns, Expr.leaves, List.map_append, List.filterMap_append]
    exact congr (congrArg _ he) hq
  | .exists q condition, ctx, h => by
    simp only [exprComplete, Bool.and_eq_true] at h
    have hq := queryReferences_refs q (ctx.enter q true) h.1
    have hc := optionReferences_refs condition (ctx.enter q true) h.2
    simp only [exprReferences, Expr.columns, Expr.leaves, List.map_append, List.filterMap_append]
    exact congr (congrArg _ hq) hc

/-- The references of several expressions whose operands are all written are their columns. -/
theorem listReferences_refs : (es : List Expr) → (ctx : Context) → listComplete es = true →
    (listReferences false es ctx).map Site.ref = (listLeaves es).filterMap Leaf.column?
  | [], _, _ => rfl
  | e :: es, ctx, h => by
    simp only [listComplete, Bool.and_eq_true] at h
    have he := exprReferences_refs e ctx h.1
    have hes := listReferences_refs es ctx h.2
    simp only [listReferences, Bool.false_eq_true, if_false, listLeaves, List.map_append,
      List.filterMap_append]
    exact congr (congrArg _ he) hes

/-- The references of an expression whose operands are all written, if it is there, are its
columns. -/
theorem optionReferences_refs : (o : Option Expr) → (ctx : Context) → optionComplete o = true →
    (optionReferences o ctx).map Site.ref = (optionLeaves o).filterMap Leaf.column?
  | none, _, _ => rfl
  | some e, ctx, h => exprReferences_refs e ctx h

/-- The references of a query whose operands are all written are the columns of its filter. -/
theorem queryReferences_refs : (q : Query) → (ctx : Context) → queryComplete q = true →
    (queryReferences q ctx).map Site.ref = q.leaves.filterMap Leaf.column?
  | ⟨_, _, predicate, _, _, _, _, _, _⟩, ctx, h => optionReferences_refs predicate ctx h

end

mutual

/-- A constant has no references. -/
theorem exprReferences_const : (e : Expr) → (ctx : Context) → e.isConst = true →
    exprReferences e ctx = []
  | .value _, _, _ => rfl
  | .unary _ e, ctx, h | .cast e _ _, ctx, h => exprReferences_const e ctx h
  | .inList e members, ctx, h => by
    rw [exprReferences]
    split
    · rfl
    · exact exprReferences_const e ctx h
  | .binary _ l r, ctx, h => by
    simp only [Expr.isConst, Bool.and_eq_true] at h
    rw [exprReferences, exprReferences_const l ctx h.1, exprReferences_const r ctx h.2]
    rfl
  | .conditional test yes no, ctx, h => by
    simp only [Expr.isConst, Bool.and_eq_true] at h
    rw [exprReferences, exprReferences_const test ctx h.1.1, exprReferences_const yes ctx h.1.2,
      exprReferences_const no ctx h.2]
    rfl
  | .call func args, ctx, h => by
    simp only [Expr.isConst, Bool.and_eq_true] at h
    exact listReferences_const (isEmptySuffix func args) args ctx h.2

/-- Constants have no references. -/
theorem listReferences_const : (unused : Bool) → (es : List Expr) → (ctx : Context) →
    Expr.areConst es = true → listReferences unused es ctx = []
  | _, [], _, _ => rfl
  | unused, e :: es, ctx, h => by
    simp only [Expr.areConst, Bool.and_eq_true] at h
    rw [listReferences, exprReferences_const e ctx h.1, listReferences_const false es ctx h.2,
      ite_self]
    rfl

end

end Traversal

/-- Whether all references of some are resolved. -/
def AllResolve (sites : List Site) : Prop := ∀ s ∈ sites, s.Resolves

/-- No references resolve. -/
lemma allResolve_nil : AllResolve [] := List.forall_mem_nil _

/-- References of two lists resolve if those of each list do. -/
lemma allResolve_append {us vs : List Site} :
    AllResolve (us ++ vs) ↔ AllResolve us ∧ AllResolve vs :=
  List.forall_mem_append

section Forms

open Emit (Needs)

/-- There are no references in a constant. -/
lemma allResolve_const {e : Expr} {ctx : Context} (h : e.isConst = true) :
    AllResolve (exprReferences e ctx) := by
  rw [exprReferences_const e ctx h]
  exact allResolve_nil

/-- In a test for the empty text at the end, nothing refers to a column but the first argument. -/
lemma allResolve_of_isEmptySuffix {func : Func} {args : List Expr} (ctx : Context)
    (h : isEmptySuffix func args = true) : AllResolve (listReferences true args ctx) := by
  unfold isEmptySuffix at h
  split at h
  case h_1 text pattern =>
    rw [Bool.and_eq_true] at h
    rw [listReferences, if_pos rfl, listReferences, exprReferences_const pattern ctx h.1]
    exact allResolve_nil
  case h_2 => cases h

/-- The references of several expressions are resolved if those of each expression are. -/
lemma allResolve_arguments (es : List Expr) (ctx : Context) :
    AllResolve (listReferences false es ctx) ↔ ∀ e ∈ es, AllResolve (exprReferences e ctx) := by
  induction es with
  | nil => exact iff_of_true allResolve_nil (List.forall_mem_nil _)
  | cons e es ih =>
    rw [listReferences, if_neg Bool.false_ne_true, allResolve_append, ih, List.forall_mem_cons]

mutual

/-- Both forms of an expression need its references to be resolved. -/
theorem formsOf_needs : (e : Expr) → (ctx : Context) →
    (formsOf e ctx).Needs (AllResolve (exprReferences e ctx))
  | .value v, ctx => ⟨.of_true allResolve_nil, .of_true allResolve_nil⟩
  | .column ref, ctx => by
    refine Forms.ofScalar_needs (Emit.Gives.lift_bind fun c hc => .pure ?_)
    obtain ⟨scope, column, hscope, hcolumn, -⟩ := Context.columnName_eq_ok hc
    exact List.forall_mem_singleton.mpr ⟨scope, column, hscope, hcolumn⟩
  | .unary _ e, ctx => formsOf_unary_needs (formsOf_needs e ctx) allResolve_const
  | .cast e _ _, ctx => formsOf_cast_needs (formsOf_needs e ctx) allResolve_const
  | .binary op l r, ctx => by
    have hl := formsOf_needs l ctx
    have hr := formsOf_needs r ctx
    rw [exprReferences, allResolve_append]
    exact formsOf_binary_needs hl hr allResolve_const allResolve_const
  | .conditional test yes no, ctx => by
    have ht := formsOf_needs test ctx
    have hy := formsOf_needs yes ctx
    have hn := formsOf_needs no ctx
    rw [exprReferences, allResolve_append, allResolve_append, and_assoc]
    exact formsOf_conditional_needs ht hy hn allResolve_const allResolve_const allResolve_const
  | .call func args, ctx => by
    have hargs := listForms_needs args ctx
    rw [exprReferences]
    cases hempty : isEmptySuffix func args with
    | true =>
      -- Nothing is written: the first argument is left out, and the second is constant.
      have hall := allResolve_of_isEmptySuffix ctx hempty
      exact ⟨.of_true hall, .of_true hall⟩
    | false =>
      rw [allResolve_arguments]
      exact formsOf_call_needs hargs (fun _ _ => allResolve_const) hempty
  | .inList e members, ctx => by
    have he := formsOf_needs e ctx
    rw [exprReferences]
    split
    case isTrue => exact ⟨.of_true allResolve_nil, .of_true allResolve_nil⟩
    case isFalse h => exact formsOf_inList_needs he allResolve_const (Bool.eq_false_iff.mpr h)
  | .inSubquery e q, ctx => by
    have he := formsOf_needs e ctx
    -- A query that is refused gives nothing, so its columns need no separate case.
    have hq := queryFilter_needs q (ctx.inside q)
    rw [exprReferences, allResolve_append]
    exact formsOf_inSubquery_needs he hq
  | .exists q condition, ctx => by
    have hq := queryFilter_needs q (ctx.enter q true)
    have hc := optionCondition_needs condition (ctx.enter q true)
    rw [exprReferences, allResolve_append]
    exact formsOf_exists_needs hq hc

/-- Both forms of several expressions need their references to be resolved. -/
theorem listForms_needs : (es : List Expr) → (ctx : Context) →
    ∀ e ∈ es, (formsOf e ctx).Needs (AllResolve (exprReferences e ctx))
  | [], _ => List.forall_mem_nil _
  | e :: es, ctx => List.forall_mem_cons.mpr ⟨formsOf_needs e ctx, listForms_needs es ctx⟩

/-- An optional condition needs its references to be resolved. -/
theorem optionCondition_needs : (o : Option Expr) → (ctx : Context) →
    NeedsIfPresent (optionCondition o ctx) (AllResolve (optionReferences o ctx))
  | none, _ => allResolve_nil
  | some e, ctx => (formsOf_needs e ctx).1

/-- The filter of a query needs its references to be resolved. -/
theorem queryFilter_needs : (q : Query) → (ctx : Context) →
    NeedsIfPresent (queryFilter q ctx) (AllResolve (queryReferences q ctx))
  | ⟨_, _, predicate, _, _, _, _, _, _⟩, ctx => optionCondition_needs predicate ctx

end

end Forms

variable {d : Dialect} {q : Query} {st : Statement}

/-- Whenever a query is compiled, each column reference that is written for its filter, at any
depth, carries the identity of a row in reach and the index of a column of the table that the row
comes from.  If no operand is left out, these are all column references of the filter. -/
theorem references_resolve (h : q.compile d = .ok st) :
    (∀ s ∈ queryReferences q (Context.top d q), s.Resolves) ∧
      (queryComplete q = true →
        (queryReferences q (Context.top d q)).map Site.ref = q.leaves.filterMap Leaf.column?) := by
  obtain ⟨f, hf, -, -⟩ := Statement.of_eq_ok h
  have hneeds : (ofQuery d q).Needs (AllResolve (queryReferences q (Context.top d q))) :=
    (Select.of_needs (queryFilter_needs q (Context.top d q))).first
  exact ⟨hneeds f hf, queryReferences_refs q (Context.top d q)⟩

/-- The column references of the query for boxes with a label are resolved. -/
theorem references_resolve_boxes :
    ∃ st, boxQuery.compile .sqlServer = .ok st ∧
      (∀ s ∈ queryReferences boxQuery (Context.top .sqlServer boxQuery), s.Resolves) ∧
      (queryComplete boxQuery = true →
        (queryReferences boxQuery (Context.top .sqlServer boxQuery)).map Site.ref =
          boxQuery.leaves.filterMap Leaf.column?) := by
  obtain ⟨st, h⟩ : ∃ st, boxQuery.compile .sqlServer = .ok st := Query.exists_compile rfl
  exact ⟨st, h, references_resolve h⟩

/-- A query whose filter asks for membership in the empty list, of a column of a row that no query
has. -/
def strayQuery : Query :=
  { Query.all boxTable ⟨0⟩ with predicate := some (.inList (.column ⟨⟨7⟩, 0⟩) []) }

/-- The query is compiled, though its filter refers to a row that is not in reach. -/
theorem stray_reference_compiles :
    (∃ st, strayQuery.compile .sqlite = .ok st) ∧
      ⟨⟨7⟩, 0⟩ ∈ strayQuery.leaves.filterMap Leaf.column? ∧
      ¬ Site.Resolves ⟨Context.top .sqlite strayQuery, ⟨⟨7⟩, 0⟩⟩ := by
  refine ⟨Query.exists_compile rfl, List.mem_cons_self, ?_⟩
  rintro ⟨scope, column, hscope, -⟩
  cases hscope

end TableQuery.Sql
