import TableQuery.Proofs.Emission.Needs
import TableQuery.Proofs.Emission.Sites
import TableQuery.Proofs.Emission.Widening
import TableQuery.Sql.Statement

/-!
# How queries and expressions end

Whether a query or an expression can be compiled does not depend on the dialect, and if it cannot,
then the error lies in its parts (`ofQuery_portable`, `ofExpr_portable`): a part has no form
whatever rows are in reach, a column that is read somewhere in it is not found there, or a subquery
in it is refused (`Accounts`).  This is by induction on the expression, in any place: the place
enters only by the names of columns, by the storage classes and by the tables of the rows around,
and none of these depend on the dialect (`Context.on`).
-/

namespace TableQuery

mutual

/-- An expression and the expressions inside it, subqueries included. -/
def Expr.parts : Expr → List Expr
  | .value v => [.value v]
  | .column ref => [.column ref]
  | .unary op e => .unary op e :: e.parts
  | .binary op l r => .binary op l r :: (l.parts ++ r.parts)
  | .cast e ty implicit => .cast e ty implicit :: e.parts
  | .conditional test yes no => .conditional test yes no :: (test.parts ++ yes.parts ++ no.parts)
  | .call func args => .call func args :: listParts args
  | .inList e members => .inList e members :: e.parts
  | .inSubquery e q => .inSubquery e q :: (e.parts ++ q.parts)
  | .exists q condition => .exists q condition :: (q.parts ++ optionParts condition)

/-- The parts of several expressions. -/
def listParts : List Expr → List Expr
  | [] => []
  | e :: es => e.parts ++ listParts es

/-- The parts of an expression that may be absent. -/
def optionParts : Option Expr → List Expr
  | none => []
  | some e => e.parts

/-- The expressions inside a query. -/
def Query.parts : Query → List Expr
  | { predicate, .. } => optionParts predicate

end

/-- An expression is a part of itself. -/
lemma Expr.mem_parts (e : Expr) : e ∈ e.parts := by
  cases e <;> exact List.mem_cons_self

/-- Expressions are among their parts. -/
lemma subset_listParts (es : List Expr) : es ⊆ listParts es := by
  induction es with
  | nil => exact List.Subset.refl _
  | cons e es ih =>
    rw [listParts, List.cons_subset]
    exact ⟨List.mem_append_left _ e.mem_parts, List.subset_append_of_subset_right _ ih⟩

/-- Several elements fail as one of them does. -/
lemma error_of_mapM {α β : Type} {f : α → Except Error β} {xs : List α} {err : Error}
    (h : xs.mapM f = .error err) : ∃ x ∈ xs, f x = .error err := by
  induction xs with
  | nil => cases h
  | cons x xs ih =>
    rw [List.mapM_cons] at h
    obtain h | ⟨y, -, h⟩ := error_of_bind h
    · exact ⟨x, List.mem_cons_self, h⟩
    obtain h | ⟨ys, -, h⟩ := error_of_bind h
    · obtain ⟨z, hz, hfz⟩ := ih h
      exact ⟨z, List.mem_cons_of_mem x hz, hfz⟩
    · cases h

namespace Sql

variable {α β : Type} {E : Error → Prop} {es fs : List Expr} {ctx : Context} {q : Query}

section Errors

/-- Where a name among some places is not found, the error is among some. -/
def SitesAdmit (sites : List Site) (E : Error → Prop) : Prop :=
  ∀ s ∈ sites, ∀ err, s.place.columnName s.ref = .error err → E err

/-- Where one of some subqueries is refused, the error is among some. -/
def RefusalsAdmit (subqueries : List Subquery) (E : Error → Prop) : Prop :=
  ∀ s ∈ subqueries, s.isRefused = true → E s.refusal

/-- Among some errors are all that expressions fail with whose columns are read in some places and
whose subqueries are these. -/
structure Accounts (E : Error → Prop) (es : List Expr) (sites : List Site)
    (subqueries : List Subquery) : Prop where
  rest : Includes E es
  columns : SitesAdmit sites E
  refusals : RefusalsAdmit subqueries E

variable {sites sites' : List Site} {subqueries subqueries' : List Subquery}

/-- What accounts for two expressions accounts for each. -/
lemma Accounts.append (h : Accounts E (es ++ fs) (sites ++ sites') (subqueries ++ subqueries')) :
    Accounts E es sites subqueries ∧ Accounts E fs sites' subqueries' := by
  obtain ⟨hsites, hsites'⟩ := List.forall_mem_append.mp h.columns
  obtain ⟨hrefusals, hrefusals'⟩ := List.forall_mem_append.mp h.refusals
  exact ⟨⟨h.rest.mono (List.subset_append_left _ _), hsites, hrefusals⟩,
    ⟨h.rest.mono (List.subset_append_right _ _), hsites', hrefusals'⟩⟩

/-- What accounts for an expression accounts for what is inside. -/
lemma Accounts.inner {e : Expr} (h : Accounts E (e :: es) sites subqueries) :
    Accounts E es sites subqueries :=
  ⟨h.rest.mono (List.subset_cons_self e es), h.columns, h.refusals⟩

/-- What accounts for a subquery accounts for what is inside. -/
lemma Accounts.subquery {s : Subquery} (h : Accounts E es sites (s :: subqueries)) :
    (s.isRefused = true → E s.refusal) ∧ Accounts E es sites subqueries := by
  obtain ⟨hrefused, hrefusals⟩ := List.forall_mem_cons.mp h.refusals
  exact ⟨hrefused, h.rest, h.columns, hrefusals⟩

/-- A query without sort keys cannot be sorted as it must be. -/
lemma Query.sortKeys_error {err : Error} (h : q.sortKeys = .error err) : q.KeyError err := by
  unfold Query.sortKeys at h
  dsimp only at h
  split at h
  · cases h
  split at h
  case isTrue hlast =>
    obtain ⟨last, paged⟩ := Bool.and_eq_true_iff.mp hlast
    cases h
    exact .lastOverPage last paged
  split at h
  case isTrue hdefault =>
    have orderings : q.orderings = [] := List.isEmpty_iff.mp (Bool.and_eq_true_iff.mp hdefault).1
    split at h
    · cases h
    case h_2 key =>
      cases h
      exact .noPrimaryKey orderings key
  case isFalse => cases h

/-- A key of a sorting fails only if its column has no name. -/
lemma OrderTerm.of_error {k : SortKey} {err : Error} (h : OrderTerm.of ctx q k = .error err) :
    ctx.columnName ⟨q.source, k.column⟩ = .error err := by
  obtain h | ⟨c, -, h⟩ := error_of_bind h
  · exact h
  · cases h

end Errors

/-- The same place in another dialect. -/
def Context.on (ctx : Context) (d : Dialect) : Context := { ctx with dialect := d }

open Emit (Decides)

/-- A step of each dialect: all of them decide the same fact. -/
def Portable (E : Error → Prop) (x : Dialect → Emit α) : Prop := ∃ P, ∀ d, (x d).Decides E P

section Steps

/-- A step that is the same in every dialect. -/
lemma Portable.fixed {x : Emit α} (h : ∀ err, x.result = .error err → E err) :
    Portable E fun _ => x :=
  ⟨x.Succeeds, fun _ => ⟨Iff.rfl, h⟩⟩

/-- A step that fails. -/
lemma Portable.fail {err : Error} (h : E err) : Portable E fun _ => (Emit.fail err : Emit α) :=
  ⟨False, fun _ => .fail h⟩

/-- Steps after one that is the same in every dialect. -/
lemma Portable.after {x : Emit α} {f : Dialect → α → Emit β} (hx : Portable E fun _ => x)
    (hf : ∀ a, x.result = .ok a → Portable E fun d => f d a) : Portable E fun d => x >>= f d := by
  obtain ⟨P, hP⟩ := hx
  cases hr : x.result with
  | error err => exact ⟨False, fun d => .error_bind hr ((hP d).fails err hr)⟩
  | ok a =>
    obtain ⟨Q, hQ⟩ := hf a hr
    exact ⟨Q, fun d => .ok_bind hr (hQ d)⟩

/-- A function of what a step gives. -/
lemma Portable.map {x : Dialect → Emit α} {f : Dialect → α → β} (hx : Portable E x) :
    Portable E fun d => (do return f d (← x d)) := by
  obtain ⟨P, hP⟩ := hx
  exact ⟨P, fun d => (hP d).map⟩

/-- A step that fails does so with such an error. -/
lemma Portable.fails {x : Dialect → Emit α} (hx : Portable E x) (d : Dialect) {err : Error}
    (h : (x d).result = .error err) : E err := by
  obtain ⟨P, hP⟩ := hx
  exact (hP d).fails err h

/-- What a step decides in one dialect it decides in all. -/
lemma Portable.decides {x : Dialect → Emit α} (hx : Portable E x) (d d' : Dialect) :
    (x d).Decides E (x d').Succeeds := by
  obtain ⟨P, hP⟩ := hx
  exact (hP d).congr (hP d').succeeds.symm

end Steps

/-- Forms of an expression in each dialect. -/
def PortableForms (E : Error → Prop) (f : Dialect → Forms) : Prop :=
  (Portable E fun d => (f d).condition) ∧ Portable E fun d => (f d).scalar

/-- A filter in each dialect: all of them are absent, or none is. -/
def PortableFilter (E : Error → Prop) (f : Dialect → Option (Emit Cond)) : Prop :=
  (f = fun _ => none) ∨ ∃ c, (f = fun d => some (c d)) ∧ Portable E c

section Operators

variable {x y : Dialect → Emit Scalar} {c c' : Dialect → Emit Cond} {e l r : Expr} {op : BinaryOp}

/-- A choice of forms that is the same in every dialect. -/
lemma PortableForms.ite {p : Prop} [Decidable p] {f g : Dialect → Forms}
    (hf : p → PortableForms E f) (hg : ¬p → PortableForms E g) :
    PortableForms E fun d => if p then f d else g d := by
  split
  case isTrue hp => exact hf hp
  case isFalse hp => exact hg hp

/-- The forms of a condition. -/
lemma Forms.ofCondition_portable (hc : Portable E c) :
    PortableForms E fun d => Forms.ofCondition (c d) :=
  ⟨hc, hc.map⟩

/-- The forms of a value. -/
lemma Forms.ofScalar_portable (hE : Includes E es) (mem : e ∈ es) (hx : Portable E x) :
    PortableForms E fun d => Forms.ofScalar (ctx.on d) e (x d) := by
  refine ⟨?_, hx⟩
  have htype : ∀ d, (ctx.on d).inferType e = ctx.inferType e := fun _ => rfl
  simp only [Forms.ofScalar, htype]
  split
  case h_1 ty hty =>
    obtain ⟨infer, kind⟩ := Option.filter_eq_some_iff.mp hty
    exact .fail (hE _ (.typedPredicate mem infer ((Bool.not_eq_true' _).mp kind)))
  case h_2 => exact hx.map

/-- The value of a constant. -/
lemma constant_portable (hE : Includes E es) (mem : e ∈ es) (const : e.isConst = true) :
    Portable E fun _ => Emit.lift (constant e) :=
  .fixed fun _ => constant_error hE mem const

/-- The forms of a constant. -/
lemma Forms.ofConstant_portable (hE : Includes E es) (mem : e ∈ es) (const : e.isConst = true) :
    PortableForms E fun _ => Forms.ofConstant e := by
  have hvalue := constant_portable hE mem const
  constructor
  case left =>
    refine hvalue.after fun v hv => ?_
    cases v with
    | bool b => exact ⟨True, fun _ => .pure _⟩
    | _ => exact .fail (constant_misplaced hE mem const hv (.literalPredicate nofun))
  case right => exact hvalue.after fun v _ => ⟨True, fun _ => literal_decides v⟩

/-- The forms of what may be constant. -/
lemma Forms.unlessConstant_portable (hE : Includes E es) (mem : e ∈ es) {f : Dialect → Forms}
    (hf : PortableForms E f) : PortableForms E fun d => Forms.unlessConstant e (f d) :=
  .ite (Forms.ofConstant_portable hE mem) fun _ => hf

/-- A comparison with a constant: null has a form only where it is tested for. -/
lemma againstConstant_portable (hE : Includes E es) (mem : e ∈ es) (const : e.isConst = true)
    (hx : Portable E x) : Portable E fun d => againstConstant op (x d) e := by
  refine (constant_portable hE mem const).after fun v hv => ?_
  cases hnull : v.isNull with
  | true =>
    obtain rfl : v = .null := by
      cases v with
      | null => rfl
      | _ => cases hnull
    cases op with
    | equal | notEqual => exact hx.map
    | _ => exact .fail (constant_misplaced hE mem const hv (.comparisonWithNull _))
  | false =>
    obtain ⟨P, hx⟩ := hx
    exact ⟨_, fun d => (hx d).map₂ (literal_decides v)⟩

/-- A comparison of two operands. -/
lemma comparison_portable (hE : Includes E es) (hl : l ∈ es) (hr : r ∈ es) (hx : Portable E x)
    (hy : Portable E y) : Portable E fun d => comparison op l r (x d) (y d) := by
  unfold comparison
  split
  case h_1 _ const => exact againstConstant_portable hE hr const hx
  case h_2 const _ => exact againstConstant_portable hE hl const hy
  case h_3 =>
    obtain ⟨P, hx⟩ := hx
    obtain ⟨Q, hy⟩ := hy
    exact ⟨P ∧ Q, fun d => (hx d).map₂ (hy d)⟩

/-- A connective of two conditions. -/
lemma logical_portable (hc : Portable E c) (hc' : Portable E c') :
    Portable E fun d => logical op (c d) (c' d) := by
  obtain ⟨P, hc⟩ := hc
  obtain ⟨Q, hc'⟩ := hc'
  exact ⟨P ∧ Q, fun d => (hc d).map₂ (hc' d)⟩

/-- Only SQLite writes both operands of an exclusive or again. -/
lemma arithmetic_portable (hx : Portable E x) (hy : Portable E y) :
    Portable E fun d => arithmetic (ctx.on d) op l r (x d) (y d) := by
  obtain ⟨P, hx⟩ := hx
  obtain ⟨Q, hy⟩ := hy
  refine ⟨P ∧ Q, fun d => ?_⟩
  unfold arithmetic
  by_cases hxor : op = .exclusiveOr ∧ d = .sqlite
  case pos =>
    obtain ⟨rfl, rfl⟩ := hxor
    refine .congr (P := P ∧ Q ∧ P ∧ Q) ?_ (by tauto)
    exact (hx _).bind fun _ => (hy _).bind fun _ => (hx _).map₂ (hy _)
  case neg =>
    refine .congr (P := P ∧ Q ∧ True) ?_ (by tauto)
    refine (hx d).bind fun _ => (hy d).bind fun _ => ?_
    split
    · exact .pure _
    split
    · exact .pure _
    split
    case isTrue h => exact absurd h hxor
    case isFalse => exact .pure _

/-- Literals do not fail. -/
lemma literals_decides (vs : List Value) : (literals vs).Decides E True := by
  induction vs with
  | nil => exact .pure _
  | cons v vs ih => exact ((literal_decides v).map₂ ih).congr (and_iff_left trivial)

/-- A test for membership in a list. -/
lemma membership_portable (hx : Portable E x) (vs : List Value) :
    Portable E fun d => membership (x d) vs := by
  obtain ⟨P, hx⟩ := hx
  unfold membership
  dsimp only
  split
  · exact ⟨True, fun _ => .pure _⟩
  · exact ⟨P, fun d => (hx d).map⟩
  · exact ⟨_, fun d => (hx d).map₂ (literals_decides _)⟩
  · exact ⟨_, fun d => (hx d).bind fun _ => (literals_decides _).map₂ (hx d)⟩

end Operators

section Queries

variable {f g : Dialect → Option (Emit Cond)}

/-- The conditions that are there. -/
lemma presentConditions_portable (fs : List (Dialect → Option (Emit Cond)))
    (hf : ∀ f ∈ fs, PortableFilter E f) :
    Portable E fun d => presentConditions (fs.map (· d)) := by
  induction fs with
  | nil => exact ⟨True, fun _ => .pure _⟩
  | cons f fs ih =>
    have hrest := ih fun g hg => hf g (List.mem_cons_of_mem f hg)
    obtain rfl | ⟨c, rfl, P, hc⟩ := hf f List.mem_cons_self
    · exact hrest
    · obtain ⟨Q, hrest⟩ := hrest
      exact ⟨P ∧ Q, fun d => (hc d).map₂ (hrest d)⟩

/-- Where a column that a query returns or sorts by is not found, the error is among some. -/
def ListedAdmit (ctx : Context) (q : Query) (E : Error → Prop) : Prop :=
  ∀ i ∈ q.listedColumns, ∀ err, ctx.columnName ⟨q.source, i⟩ = .error err → E err

/-- What accounts for a query accounts for the columns that it lists. -/
lemma listedAdmit_of_accounts {subqueries : List Subquery}
    (h : Accounts E es (querySites q ctx) subqueries) : ListedAdmit ctx q E := by
  obtain ⟨table, source, predicate, orderings, projection, skip, take, distinct, terminal⟩ := q
  exact List.forall_mem_map.mp (List.forall_mem_append.mp h.columns).1

/-- The output of a statement is written in all dialects, or its columns in none. -/
lemma Output.of_portable (h : ListedAdmit ctx q E) :
    Portable E fun d => Emit.lift (Output.of (ctx.on d) q) := by
  unfold Output.of
  split
  · exact ⟨True, fun _ => .pure _⟩
  split
  · exact ⟨True, fun _ => .pure _⟩
  split
  · exact ⟨True, fun _ => .pure _⟩
  · have hname : ∀ d, (ctx.on d).columnName = ctx.columnName := fun _ => rfl
    simp only [hname]
    refine .fixed fun err herr => ?_
    obtain herr | ⟨names, -, herr⟩ := error_of_bind herr
    · obtain ⟨i, hi, herr⟩ := error_of_mapM herr
      have hlisted : i ∈ q.listedColumns := by simp [Query.listedColumns, hi]
      exact h i hlisted err herr
    · cases herr

/-- The statement of a query that is not counted by way of another. -/
lemma Select.direct_portable (hsort : ∀ err, q.KeyError err → E err) (h : ListedAdmit ctx q E)
    (hf : PortableFilter E f) : Portable E fun d => Select.direct (ctx.on d) q (f d) := by
  unfold Select.direct
  refine .after (.fixed fun err herr => hsort err (Query.sortKeys_error herr)) fun keys hkeys => ?_
  have houtput : Portable E _ := Output.of_portable h
  obtain ⟨P, houtput⟩ := houtput
  obtain ⟨Q, hfilters⟩ := presentConditions_portable [f] (List.forall_mem_singleton.mpr hf)
  have horder : Portable E fun _ => Emit.lift (keys.mapM (OrderTerm.of ctx q)) := by
    refine .fixed fun err herr => ?_
    obtain ⟨k, hk, herr⟩ := error_of_mapM herr
    have hlisted : k.column ∈ q.listedColumns := Query.listedColumns_of_sortKeys hkeys k hk
    exact h k.column hlisted err (OrderTerm.of_error herr)
  obtain ⟨R, horder⟩ := horder
  exact ⟨_, fun d => (houtput d).bind fun _ => (hfilters d).bind fun _ => (horder d).map⟩

/-- The statement of a query. -/
lemma Select.of_portable (hsort : ∀ err, q.KeyError err → E err) (h : ListedAdmit ctx q E)
    (hf : PortableFilter E f) : Portable E fun d => Select.of (ctx.on d) q (f d) := by
  unfold Select.of
  split
  · have hrows : ListedAdmit ctx { q with terminal := .sequence } E := h
    exact (Select.direct_portable (fun err herr => hsort err herr.of_sequence) hrows hf).map
  · exact Select.direct_portable hsort h hf

/-- Membership in a query, whose statement is written unless the query is refused. -/
lemma subqueryMembership_portable {x : Dialect → Emit Scalar} {e : Expr} (hE : Includes E es)
    (mem : .inSubquery e q ∈ es) (hx : Portable E x)
    (hrefused : (ctx.isCorrelated q && ctx.readsTableOf q) = true →
      E (.unsupportedExpression (.correlatedSubquery q.table.name)))
    (hselect : (ctx.isCorrelated q && ctx.readsTableOf q) = false →
      Portable E fun d => Select.of ((ctx.inside q).on d) q (f d)) :
    Portable E fun d => subqueryMembership (ctx.on d) q (x d) (f d) := by
  unfold subqueryMembership
  split
  case isTrue columns => exact .fail (hE _ (.membershipColumns mem columns))
  split
  case isTrue hsequence =>
    exact .fail (hE _ (.membershipTerminal mem ((Bool.not_eq_true' _).mp hsequence)))
  obtain ⟨P, hx⟩ := hx
  have hplace : ∀ d, ((ctx.on d).isCorrelated q && (ctx.on d).readsTableOf q) =
      (ctx.isCorrelated q && ctx.readsTableOf q) := fun _ => rfl
  simp only [hplace]
  split
  case isTrue h => exact ⟨P ∧ False, fun d => (hx d).bind fun _ => .fail (hrefused h)⟩
  case isFalse h =>
    obtain ⟨Q, hselect⟩ := hselect (Bool.eq_false_iff.mpr h)
    exact ⟨P ∧ Q, fun d => (hx d).bind fun _ => (hselect d).map⟩

/-- Whether a query has a row, for which its conditions are written unless the query is refused. -/
lemma existence_portable {condition : Option Expr} (hE : Includes E es)
    (mem : .exists q condition ∈ es)
    (hrefused : ctx.readsTableOf q = true →
      E (.unsupportedExpression (.correlatedExists q.table.name)))
    (hconditions : ctx.readsTableOf q = false → PortableFilter E f ∧ PortableFilter E g) :
    Portable E fun d => existence (ctx.on d) q (f d) (g d) := by
  unfold existence
  split
  case isTrue paged => exact .fail (hE _ (.pagedExists mem paged))
  split
  case isTrue hterminal =>
    have terminal : q.terminal ≠ .sequence ∧ q.terminal ≠ .any := by simpa using hterminal
    exact .fail (hE _ (.existsTerminal mem terminal))
  have hplace : ∀ d, (ctx.on d).readsTableOf q = ctx.readsTableOf q := fun _ => rfl
  simp only [hplace]
  split
  case isTrue h => exact .fail (hrefused h)
  case isFalse h =>
    obtain ⟨hf, hg⟩ := hconditions (Bool.eq_false_iff.mpr h)
    have hboth : ∀ o ∈ [f, g], PortableFilter E o :=
      List.forall_mem_cons.mpr ⟨hf, List.forall_mem_singleton.mpr hg⟩
    exact (presentConditions_portable [f, g] hboth).map

end Queries

section Calls

variable {func : Func} {args : List Expr}

/-- What a call asks of its arguments is the same in all dialects, if whether they have values
is. -/
lemma portable_of_asks {x : Dialect → Emit α}
    (h : ∀ e ∈ args, Portable E fun d => (formsOf e (ctx.on d)).scalar)
    (hx : ∀ d R, (∀ a ∈ argumentForms args (ctx.on d), a.scalar.Decides E (R a)) →
      (x d).Decides E (Call.Asks func (argumentForms args (ctx.on d)) R)) : Portable E x := by
  have hvalues : ∀ d, ∀ a ∈ argumentForms args (ctx.on d),
      a.scalar.Decides E (formsOf a.expr (ctx.on .sqlite)).scalar.Succeeds := by
    intro d
    rw [argumentForms_eq_map]
    exact List.forall_mem_map.mpr fun e he => (h e he).decides d .sqlite
  have hexprs : ∀ d, (argumentForms args (ctx.on d)).map Argument.expr =
      (argumentForms args ctx).map Argument.expr := by
    intro d
    rw [argumentForms_expr, argumentForms_expr]
  exact ⟨_, fun d => (hx d _ (hvalues d)).congr
    (Call.asks_congr (F := fun e => (formsOf e (ctx.on .sqlite)).scalar.Succeeds) (hexprs d))⟩

/-- The condition that a call of a test becomes. -/
lemma condition_portable (hE : Includes E (.call func args :: args))
    (hfunc : func.isPredicate = true)
    (h : ∀ e ∈ args, Portable E fun d => (formsOf e (ctx.on d)).scalar) :
    Portable E fun d => Call.condition d func (argumentForms args (ctx.on d)) :=
  portable_of_asks h fun _ _ hR =>
    Call.condition_decides (by rwa [argumentForms_expr]) hR hfunc

/-- The value that any other call becomes. -/
lemma scalar_portable (hE : Includes E (.call func args :: args)) (hfunc : func.isPredicate = false)
    (h : ∀ e ∈ args, Portable E fun d => (formsOf e (ctx.on d)).scalar) :
    Portable E fun d => Call.scalar d func (argumentForms args (ctx.on d)) :=
  portable_of_asks h fun _ _ hR => Call.scalar_decides (by rwa [argumentForms_expr]) hR hfunc

end Calls

mutual

/-- Whether an expression has its forms does not depend on the dialect, and if it has not, the error
is accounted for. -/
theorem formsOf_portable : (e : Expr) → (ctx : Context) →
    Accounts E e.parts (exprSites e ctx) (exprSubqueries e ctx) →
      PortableForms E fun d => formsOf e (ctx.on d)
  | .value v, _, h => Forms.ofConstant_portable h.rest List.mem_cons_self rfl
  | .column ref, ctx, h => by
    have hname : Portable E fun _ => Emit.lift (ctx.columnName ref) :=
      .fixed (h.columns ⟨ctx, ref⟩ List.mem_cons_self)
    exact Forms.ofScalar_portable h.rest List.mem_cons_self hname.map
  | .unary op e, ctx, h => by
    have he := formsOf_portable e ctx h.inner
    refine Forms.unlessConstant_portable h.rest List.mem_cons_self ?_
    cases op with
    | not => exact Forms.ofCondition_portable he.1.map
    | negate | bitwiseNot => exact Forms.ofScalar_portable h.rest List.mem_cons_self he.2.map
  | .binary op l r, ctx, h => by
    obtain ⟨hl, hr⟩ := h.inner.append
    have hleft := formsOf_portable l ctx hl
    have hright := formsOf_portable r ctx hr
    have hmem : l ∈ l.parts ++ r.parts := List.mem_append_left _ l.mem_parts
    have hmem' : r ∈ l.parts ++ r.parts := List.mem_append_right _ r.mem_parts
    refine Forms.unlessConstant_portable h.rest List.mem_cons_self
      (.ite (fun _ => ?_) fun _ => .ite (fun _ => ?_) fun _ => ?_)
    · exact Forms.ofCondition_portable (logical_portable hleft.1 hright.1)
    · refine Forms.ofCondition_portable ?_
      exact comparison_portable h.inner.rest hmem hmem' hleft.2 hright.2
    · exact Forms.ofScalar_portable h.rest List.mem_cons_self (arithmetic_portable hleft.2 hright.2)
  | .cast e ty implicit, ctx, h => by
    have he := formsOf_portable e ctx h.inner
    -- Whether the conversion is left out is decided by the classes of columns, which no dialect
    -- changes.
    have hwidening : ∀ d, isWidening (ctx.on d) e ty implicit = isWidening ctx e ty implicit := by
      intro d
      have htypes : (ctx.on d).columnType = ctx.columnType := rfl
      exact isWidening_congr htypes e ty implicit
    have hcast : Portable E fun d => castTo d ty (formsOf e (ctx.on d)).scalar := by
      obtain ⟨P, hP⟩ := he.2
      exact ⟨_, fun d => Call.castTo_decides h.rest List.mem_cons_self rfl (hP d)⟩
    have hwhole : ∀ {x : Dialect → Emit Scalar}, Portable E x → PortableForms E fun d =>
        Forms.unlessConstant (.cast e ty implicit)
          (.ofScalar (ctx.on d) (.cast e ty implicit) (x d)) := fun hx =>
      Forms.unlessConstant_portable h.rest List.mem_cons_self
        (Forms.ofScalar_portable h.rest List.mem_cons_self hx)
    simp only [formsOf, hwidening]
    cases isWidening ctx e ty implicit with
    | true => exact ⟨(hwhole he.2).1, he.2⟩
    | false => exact hwhole hcast
  | .conditional test yes no, ctx, h => by
    obtain ⟨hbranches, hn⟩ := h.inner.append
    obtain ⟨ht, hy⟩ := hbranches.append
    obtain ⟨P, htest⟩ := (formsOf_portable test ctx ht).1
    obtain ⟨Q, hyes⟩ := (formsOf_portable yes ctx hy).2
    obtain ⟨R, hno⟩ := (formsOf_portable no ctx hn).2
    refine Forms.unlessConstant_portable h.rest List.mem_cons_self
      (Forms.ofScalar_portable h.rest List.mem_cons_self ?_)
    exact ⟨P ∧ Q ∧ R, fun d => (htest d).bind fun _ => (hyes d).map₂ (hno d)⟩
  | .call func args, ctx, h => by
    have hargs := argumentForms_portable args ctx h.inner
    have hE : Includes E (.call func args :: args) :=
      h.rest.mono (List.cons_subset_cons _ (subset_listParts args))
    refine Forms.unlessConstant_portable h.rest List.mem_cons_self
      (.ite (fun hfunc => ?_) fun hfunc => ?_)
    · exact Forms.ofCondition_portable (condition_portable hE hfunc hargs)
    · have hvalue : func.isPredicate = false := Bool.eq_false_iff.mpr hfunc
      exact Forms.ofScalar_portable h.rest List.mem_cons_self (scalar_portable hE hvalue hargs)
  | .inList e members, ctx, h => by
    have he := formsOf_portable e ctx h.inner
    refine Forms.unlessConstant_portable h.rest List.mem_cons_self ?_
    exact Forms.ofCondition_portable (membership_portable he.2 members)
  | .inSubquery e q, ctx, h => by
    obtain ⟨he, hq⟩ := h.inner.append
    -- A query that is refused is not entered, so what it reads is accounted for only if it is not.
    obtain ⟨hrefused, hq⟩ := hq.subquery
    have hoperand := (formsOf_portable e ctx he).2
    refine Forms.ofCondition_portable
      (subqueryMembership_portable h.rest List.mem_cons_self hoperand hrefused fun hfree => ?_)
    rw [hfree, if_neg Bool.false_ne_true] at hq
    have hfilter := queryFilter_portable q (ctx.inside q) hq
    have hsort : ∀ err, q.KeyError err → E err :=
      fun err herr => h.rest err (.membershipKeys List.mem_cons_self herr)
    exact Select.of_portable hsort (listedAdmit_of_accounts hq) hfilter
  | .exists q condition, ctx, h => by
    obtain ⟨hrefused, hinner⟩ := h.inner.subquery
    refine Forms.ofCondition_portable
      (existence_portable h.rest List.mem_cons_self hrefused fun hfree => ?_)
    rw [exprSites, hfree, if_neg Bool.false_ne_true] at hinner
    obtain ⟨hq, hc⟩ := hinner.append
    exact ⟨queryFilter_portable q (ctx.enter q true) hq,
      optionCondition_portable condition (ctx.enter q true) hc⟩

/-- The values of the arguments of a call. -/
theorem argumentForms_portable : (args : List Expr) → (ctx : Context) →
    Accounts E (listParts args) (listSites args ctx) (listSubqueries args ctx) →
      ∀ e ∈ args, Portable E fun d => (formsOf e (ctx.on d)).scalar
  | [], _, _ => List.forall_mem_nil _
  | e :: args, ctx, h => by
    obtain ⟨he, hargs⟩ := h.append
    exact List.forall_mem_cons.mpr
      ⟨(formsOf_portable e ctx he).2, argumentForms_portable args ctx hargs⟩

/-- A condition that may be absent. -/
theorem optionCondition_portable : (o : Option Expr) → (ctx : Context) →
    Accounts E (optionParts o) (optionSites o ctx) (optionSubqueries o ctx) →
      PortableFilter E fun d => optionCondition o (ctx.on d)
  | none, _, _ => .inl rfl
  | some e, ctx, h => .inr ⟨_, rfl, (formsOf_portable e ctx h).1⟩

/-- The filter of a query. -/
theorem queryFilter_portable : (q : Query) → (ctx : Context) →
    Accounts E q.parts (querySites q ctx) (querySubqueries q ctx) →
      PortableFilter E fun d => queryFilter q (ctx.on d)
  | ⟨_, _, predicate, _, _, _, _, _, _⟩, ctx, h =>
    optionCondition_portable predicate ctx
      ⟨h.rest, (List.forall_mem_append.mp h.columns).2, h.refusals⟩

end

/-- The statement of a query. -/
theorem ofQuery_portable (d' : Dialect) (q : Query) (hsort : ∀ err, q.KeyError err → E err)
    (h : Accounts E q.parts (querySites q (Context.top d' q))
      (querySubqueries q (Context.top d' q))) :
    Portable E fun d => ofQuery d q := by
  have hfilter := queryFilter_portable q (Context.top d' q) h
  exact (Select.of_portable hsort (listedAdmit_of_accounts h) hfilter).map

/-- An expression over the row of a query. -/
theorem ofExpr_portable (d' : Dialect) (q : Query) (e : Expr)
    (h : Accounts E e.parts (exprSites e (Context.top d' q))
      (exprSubqueries e (Context.top d' q))) :
    Portable E fun d => ofExpr d q e := by
  have hforms := formsOf_portable e (Context.top d' q) h
  unfold ofExpr
  split
  · exact hforms.1.map
  · exact hforms.2.map

end Sql

end TableQuery
