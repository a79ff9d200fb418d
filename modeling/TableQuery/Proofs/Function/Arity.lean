import Mathlib.Logic.Relation
import TableQuery.Proofs.Emission.Needs
import TableQuery.Proofs.Schema.Index
import TableQuery.Proofs.Statement

/-!
# Numbers of arguments

A call that is written must have as many arguments as its function takes
(`formsOf_call_needs_admits`).  So no query is compiled in whose filter a call with a wrong number
of arguments is written, at any depth and in subqueries too (`written_calls_admitted`).

Two kinds of calls are not written, so that nothing asks for the number of their arguments.  A
constant call is evaluated as if it had the right number (`Fold.call_completed`), and operands are
left out by the tests for membership in the empty list and for the empty text at the end.

Whatever an operand needs that is not constant, the expression around it needs as well
(`Operand.needs`), and so does any expression further out.
-/

namespace TableQuery

/-- A function that can be evaluated without a database takes two arguments if it joins them, and
one otherwise. -/
lemma Func.arity_of_isFoldable {func : Func} (h : func.isFoldable = true) :
    func.arity = if func = .concat then (2, 2) else (1, 1) := by
  cases func with
  | toLower | toUpper | trim | trimStart | trimEnd | length | concat => rfl
  | _ => cases h

namespace Fold

/-- The arguments that a function takes: null stands for one that is missing, and those too many are
left out. -/
def completed (func : Func) (args : List Value) : List Value :=
  (args ++ List.replicate func.arity.2 Value.null).take func.arity.2

/-- A constant call is evaluated as if it had the right number of arguments. -/
theorem call_completed {func : Func} (h : func.isFoldable = true) (args : List Value) :
    func.admits (completed func args).length = true ∧
      call func args = call func (completed func args) := by
  have harity := Func.arity_of_isFoldable h
  have hlength : (completed func args).length = func.arity.2 := by
    rw [completed, List.length_take, List.length_append, List.length_replicate]
    omega
  by_cases hconcat : func = .concat
  case pos =>
    subst hconcat
    refine ⟨by rw [hlength]; rfl, ?_⟩
    match args with
    | [] | [_] | _ :: _ :: _ => rfl
  case neg =>
    rw [if_neg hconcat] at harity
    refine ⟨by rw [hlength, Func.admits, harity]; rfl, ?_⟩
    have hcompleted : completed func args = [args.headD .null] := by
      rw [completed, harity]
      cases args <;> rfl
    rw [hcompleted, call, call, if_neg hconcat, if_neg hconcat, List.headD_cons]

end Fold

namespace Sql

/-- One expression is an operand of another that is written if it is not constant. -/
inductive Operand : Expr → Expr → Prop where
  | unary {op e} : Operand e (.unary op e)
  | cast {e ty implicit} : Operand e (.cast e ty implicit)
  | left {op l r} : Operand l (.binary op l r)
  | right {op l r} : Operand r (.binary op l r)
  | test {test yes no} : Operand test (.conditional test yes no)
  | yes {test yes no} : Operand yes (.conditional test yes no)
  | no {test yes no} : Operand no (.conditional test yes no)
  | argument {func args e} : e ∈ args → isEmptySuffix func args = false →
    Operand e (.call func args)
  | listed {e members} : members.isEmpty = false → Operand e (.inList e members)
  | member {e q} : Operand e (.inSubquery e q)
  /-- With membership in a query the filter of the query is written. -/
  | filter {e q p} : q.predicate = some p → Operand p (.inSubquery e q)
  /-- With a test for a row of a query the filter of the query is written. -/
  | existing {q condition p} : q.predicate = some p → Operand p (.exists q condition)
  | condition {q p} : Operand p (.exists q (some p))

/-- An expression stands in the filter of a query, at some depth, such that it is written if it is
not constant. -/
def StandsIn (e : Expr) (q : Query) : Prop :=
  ∃ p ∈ q.predicate, Relation.ReflTransGen Operand e p

section Operands

variable {e whole : Expr} {P : Prop} {ctx : Context}

/-- What holds an operand that is not constant is not constant. -/
lemma Operand.isConst_whole (h : Operand e whole) (hconst : e.isConst = false) :
    whole.isConst = false := by
  cases h with
  | member | filter | existing | condition => rfl
  | @argument func args _ hmem =>
    have hargs : Expr.areConst args = false := by
      rw [Bool.eq_false_iff, Ne, areConst_iff]
      intro hall
      rw [hall e hmem] at hconst
      cases hconst
    rw [Expr.isConst, hargs, Bool.and_false]
  | _ => simp only [Expr.isConst, hconst, Bool.and_false, Bool.false_and]

/-- The filter of a query needs what its expression needs everywhere. -/
lemma queryFilter_needs_of {q : Query} (hq : q.predicate = some e)
    (h : ∀ ctx, (formsOf e ctx).Needs P) : NeedsIfPresent (queryFilter q ctx) P := by
  obtain ⟨table, source, predicate, _⟩ := q
  cases hq
  exact (h ctx).1

/-- An expression needs what its operand needs, if that is not constant. -/
theorem Operand.needs (h : Operand e whole) (hconst : e.isConst = false)
    (hneeds : ∀ ctx, (formsOf e ctx).Needs P) (ctx : Context) :
    (formsOf whole ctx).Needs P := by
  have hfixed : e.isConst = true → P := fun he => nomatch he.symm.trans hconst
  have htrue : ∀ {x : Expr}, x.isConst = true → True := fun _ => trivial
  have hself : ∀ {f : Forms}, f.Needs True := Forms.needs_true
  have hany : ∀ {o : Option (Emit Cond)}, NeedsIfPresent o (∀ c ∈ o, c.Succeeds) :=
    needsIfPresent_self _
  have he := hneeds ctx
  cases h with
  | unary => exact formsOf_unary_needs he hfixed
  | cast => exact formsOf_cast_needs he hfixed
  | left => exact (formsOf_binary_needs he hself hfixed htrue).mono And.left
  | right => exact (formsOf_binary_needs hself he htrue hfixed).mono And.right
  | test =>
    exact (formsOf_conditional_needs he hself hself hfixed htrue htrue).mono And.left
  | yes =>
    exact (formsOf_conditional_needs hself he hself htrue hfixed htrue).mono fun h => h.2.1
  | no =>
    exact (formsOf_conditional_needs hself hself he htrue htrue hfixed).mono fun h => h.2.2
  | argument hmem hempty => exact formsOf_argument_needs hmem he hfixed hempty
  | listed hmembers => exact formsOf_inList_needs he hfixed hmembers
  | member => exact (formsOf_inSubquery_needs he hany).mono And.left
  | filter hq =>
    exact (formsOf_inSubquery_needs hself (queryFilter_needs_of hq hneeds)).mono And.right
  | existing hq => exact (formsOf_exists_needs (queryFilter_needs_of hq hneeds) hany).mono And.left
  | @condition q _ =>
    have hc : NeedsIfPresent (optionCondition (some e) (ctx.enter q true)) P := (hneeds _).1
    exact (formsOf_exists_needs hany hc).mono And.right

/-- An expression needs what any operand needs that stands in it, if that is not constant. -/
theorem needs_of_operands (h : Relation.ReflTransGen Operand e whole) (hconst : e.isConst = false)
    (hneeds : ∀ ctx, (formsOf e ctx).Needs P) : ∀ ctx, (formsOf whole ctx).Needs P := by
  have hall : whole.isConst = false ∧ ∀ ctx, (formsOf whole ctx).Needs P := by
    induction h with
    | refl => exact ⟨hconst, hneeds⟩
    | tail _ hlast ih => exact ⟨hlast.isConst_whole ih.1, hlast.needs ih.1 ih.2⟩
  exact hall.2

end Operands

section Calls

variable {d : Dialect} {func : Func} {ctx : Context}

/-- Both forms of a call that is not constant need the right number of arguments. -/
theorem formsOf_call_needs_admits {args : List Expr}
    (hconst : (Expr.call func args).isConst = false) :
    (formsOf (.call func args) ctx).Needs (func.admits args.length = true) := by
  refine formsOf_call_needs_asked hconst fun hasks => ?_
  have hadmits := hasks.1
  rwa [argumentForms_eq_map, List.length_map] at hadmits

end Calls

variable {d : Dialect} {q : Query} {st : Statement}

/-- Whenever a query is compiled, each call in its filter that is not constant, at any depth, has as
many arguments as its function takes, unless it stands in an operand that is left out. -/
theorem written_calls_admitted (h : q.compile d = .ok st) :
    ∀ func args, StandsIn (.call func args) q → (Expr.call func args).isConst = false →
      func.admits args.length = true := by
  rintro func args ⟨p, hp, hstands⟩ hconst
  obtain ⟨f, hf, -, -⟩ := Statement.of_eq_ok h
  have hneeds := needs_of_operands hstands hconst fun ctx => formsOf_call_needs_admits hconst
  exact (Select.of_needs (queryFilter_needs_of hp hneeds)).first f hf

/-- A table of tags. -/
def tagTable : Table :=
  .of "tags"
    [⟨"id", "Id", .int, false, true⟩, ⟨"label", "Label", .text, false, false⟩] (by decide)

/-- The query for tags whose label is in capitals without white space around it. -/
def capitalTags : Query :=
  { Query.all tagTable ⟨0⟩ with
    predicate := some (.binary .equal (.column ⟨⟨0⟩, 1⟩)
      (.call .toUpper [.call .trim [.column ⟨⟨0⟩, 1⟩]])) }

/-- The calls in the query for capital tags have one argument each. -/
theorem written_calls_admitted_tags :
    ∃ st, capitalTags.compile .postgreSql = .ok st ∧
      StandsIn (.call .trim [.column ⟨⟨0⟩, 1⟩]) capitalTags ∧
      (Expr.call .trim [.column ⟨⟨0⟩, 1⟩]).isConst = false ∧ Func.trim.admits 1 = true := by
  obtain ⟨st, h⟩ : ∃ st, capitalTags.compile .postgreSql = .ok st := Query.exists_compile rfl
  have hargument : Operand (.call .trim [.column ⟨⟨0⟩, 1⟩])
      (.call .toUpper [.call .trim [.column ⟨⟨0⟩, 1⟩]]) := .argument List.mem_cons_self rfl
  have hstands : StandsIn (.call .trim [.column ⟨⟨0⟩, 1⟩]) capitalTags :=
    ⟨_, rfl, (Relation.ReflTransGen.single hargument).tail .right⟩
  exact ⟨st, h, hstands, rfl, written_calls_admitted h _ _ hstands rfl⟩

/-- The query for tags whose number is a length, where no text is given. -/
def vacantTags : Query :=
  { Query.all tagTable ⟨0⟩ with
    predicate := some (.binary .equal (.column ⟨⟨0⟩, 0⟩) (.call .length [])) }

/-- The query is compiled for every dialect, though an argument is missing in the call in its
filter. -/
theorem missing_argument_compiles :
    StandsIn (.call .length []) vacantTags ∧ Func.length.admits 0 = false ∧
      ∀ d, ∃ st, vacantTags.compile d = .ok st := by
  refine ⟨⟨_, rfl, .single .right⟩, rfl, fun d => ?_⟩
  cases d with
  | _ => exact Query.exists_compile rfl

end Sql

end TableQuery
