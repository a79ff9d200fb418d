import TableQuery.Proofs.Schema.Index
import TableQuery.Proofs.Turning.Comparison
import TableQuery.Proofs.Turning.Expression
import TableQuery.Sql.Statement

/-!
# Statements with turned comparisons

The statement of an expression or a query, with its text and its parameters, and any error, do not
change if comparisons are turned that have a constant on exactly one side
(`turned_comparisons_agree`).  In the statement the constant stands on the right, and no other form
depends on the side.  Calls read some of their arguments if these are constant, and a constant has
no such comparison in it.
-/

namespace TableQuery.Sql

/-- Two arguments that a call cannot tell apart. -/
structure Argument.Alike (a b : Argument) : Prop where
  scalar : a.scalar = b.scalar
  isConst : a.expr.isConst = b.expr.isConst
  same : a.expr.isConst = true → a.expr = b.expr

namespace Call

variable {d : Dialect} {func : Func} {a b x y : Argument}

/-- Arguments that are alike have the same constant text. -/
lemma constantText?_congr (h : a.Alike b) :
    constantText? func a.expr = constantText? func b.expr := by
  cases hconst : a.expr.isConst with
  | true => rw [h.same hconst]
  | false =>
    rw [constantText?, constantText?, ← h.isConst, hconst]
    rfl

/-- The test that a text begins with another. -/
lemma startsWith_congr (hx : x.scalar = y.scalar) (h : a.Alike b) :
    startsWith func x a = startsWith func y b := by
  rw [startsWith, constantText?_congr h, hx, h.scalar, startsWith]

/-- The test that a text ends with another. -/
lemma endsWith_congr (hx : x.scalar = y.scalar) (h : a.Alike b) :
    endsWith d func x a = endsWith d func y b := by
  rw [endsWith, constantText?_congr h, hx, h.scalar, endsWith]

/-- The test that a text begins or ends with another, ignoring case. -/
lemma like_congr {atStart : Bool} (hx : x.scalar = y.scalar) (h : a.Alike b) :
    like d func atStart x a = like d func atStart y b := by
  rw [like, constantText?_congr h, hx, h.scalar, like]

/-- A place counted from one. -/
lemma placeFromOne_congr (h : a.Alike b) : placeFromOne a = placeFromOne b := by
  cases hconst : a.expr.isConst with
  | true => rw [placeFromOne, placeFromOne, ← h.isConst, hconst, h.same hconst, h.scalar]
  | false =>
    rw [placeFromOne, placeFromOne, ← h.isConst, hconst, h.scalar]
    rfl

/-- A part of a text without a length. -/
lemma substring_congr (hx : x.scalar = y.scalar) (h : a.Alike b) :
    substring d x a none = substring d y b none := by
  rw [substring, placeFromOne_congr h, hx, substring]

/-- A part of a text with a length. -/
lemma substring_congr_length {l l' : Argument} (hx : x.scalar = y.scalar) (h : a.Alike b)
    (hl : l.scalar = l'.scalar) : substring d x a (some l) = substring d y b (some l') := by
  simp only [substring, placeFromOne_congr h, hx, hl]

/-- A test does not tell arguments apart that are alike. -/
theorem condition_congr {as bs : List Argument} (h : List.Forall₂ Argument.Alike as bs) :
    condition d func as = condition d func bs := by
  have harity : wrongArity func as = wrongArity func bs := by
    rw [wrongArity, wrongArity, h.length_eq]
  rcases h with _ | ⟨hx, _ | ⟨hy, _ | ⟨hz, h⟩⟩⟩
  · rfl
  · cases func with
    | isNullOrEmpty | isNullOrWhiteSpace =>
      rw [condition, condition, hx.scalar]
    | _ => exact congrArg Emit.fail harity
  · cases func with
    | contains =>
      rw [condition, condition, hx.scalar, hy.scalar]
    | startsWith => exact startsWith_congr hx.scalar hy
    | endsWith => exact endsWith_congr hx.scalar hy
    | startsWithIgnoreCase | endsWithIgnoreCase => exact like_congr hx.scalar hy
    | _ => exact congrArg Emit.fail harity
  · cases func with
    | _ => exact congrArg Emit.fail harity

section Arities

variable {a' b' x' : Argument}

/-- A call with one argument. -/
lemma scalar_congr_one (hx : x.scalar = x'.scalar) :
    Call.scalar d func [x] = Call.scalar d func [x'] := by
  obtain ⟨e, s⟩ := x
  obtain ⟨e', _⟩ := x'
  cases hx
  cases func <;> rfl

/-- A call with two arguments. -/
lemma scalar_congr_two (hx : x.scalar = x'.scalar) (ha : a.Alike a') :
    Call.scalar d func [x, a] = Call.scalar d func [x', a'] := by
  cases func with
  | substring => exact substring_congr hx ha
  | _ =>
    obtain ⟨e, s⟩ := x
    obtain ⟨e', _⟩ := x'
    obtain ⟨f, t⟩ := a
    obtain ⟨f', _⟩ := a'
    cases hx
    cases ha.scalar
    rfl

/-- A call with three arguments. -/
lemma scalar_congr_three (hx : x.scalar = x'.scalar) (ha : a.Alike a') (hb : b.scalar = b'.scalar) :
    Call.scalar d func [x, a, b] = Call.scalar d func [x', a', b'] := by
  cases func with
  | substring => exact substring_congr_length (d := d) hx ha hb
  | _ =>
    obtain ⟨e, s⟩ := x
    obtain ⟨e', _⟩ := x'
    obtain ⟨f, t⟩ := a
    obtain ⟨f', _⟩ := a'
    obtain ⟨g, u⟩ := b
    obtain ⟨g', _⟩ := b'
    cases hx
    cases ha.scalar
    cases hb
    rfl

/-- No function has four arguments. -/
lemma scalar_of_many (as : List Argument) :
    Call.scalar d func (x :: a :: b :: y :: as) =
      .fail (wrongArity func (x :: a :: b :: y :: as)) := by
  cases func <;> rfl

end Arities

/-- Any other call does not tell arguments apart that are alike. -/
theorem scalar_congr {as bs : List Argument} (h : List.Forall₂ Argument.Alike as bs) :
    Call.scalar d func as = Call.scalar d func bs := by
  have harity : wrongArity func as = wrongArity func bs := by
    rw [wrongArity, wrongArity, h.length_eq]
  rcases h with _ | ⟨hx, _ | ⟨ha, _ | ⟨hb, _ | ⟨hy, h⟩⟩⟩⟩
  · rfl
  · exact scalar_congr_one hx.scalar
  · exact scalar_congr_two hx.scalar ha
  · exact scalar_congr_three hx.scalar ha hb.scalar
  · rw [scalar_of_many, scalar_of_many, harity]

end Call

section Forms

variable {places : Path → Bool} {ctx : Context} {e e' l r : Expr} {op : BinaryOp}

/-- The forms of a value do not change if its class and its description do not. -/
lemma ofScalar_congr (htype : ctx.inferType e' = ctx.inferType e)
    (hdescribe : e'.describe = e.describe) (x : Emit Scalar) :
    Forms.ofScalar ctx e' x = Forms.ofScalar ctx e x := by
  rw [Forms.ofScalar, htype, hdescribe, Forms.ofScalar]

/-- A comparison whose sides stay in place. -/
lemma comparison_kept (p : Path) (x y : Emit Scalar) :
    comparison op (l.turn places (0 :: p)) (r.turn places (1 :: p)) x y =
      comparison op l r x y := by
  rw [comparison, l.isConst_turn, r.isConst_turn, comparison]
  cases hl : l.isConst with
  | true =>
    rw [l.turn_of_isConst _ hl]
    cases r.isConst <;> rfl
  | false =>
    cases hr : r.isConst with
    | true => rw [r.turn_of_isConst _ hr]
    | false => rfl

/-- A comparison whose sides change places, one of which is a constant. -/
lemma comparison_turned (p : Path) (hone : l.isConst ≠ r.isConst) (x y : Emit Scalar) :
    comparison op.commute (r.turn places (1 :: p)) (l.turn places (0 :: p)) y x =
      comparison op l r x y := by
  rw [comparison, l.isConst_turn, r.isConst_turn, comparison]
  cases hl : l.isConst with
  | true =>
    cases hr : r.isConst with
    | true => exact absurd (hl.trans hr.symm) hone
    | false => rw [l.turn_of_isConst _ hl]
  | false =>
    cases hr : r.isConst with
    | true => rw [r.turn_of_isConst _ hr, op.commute_commute]
    | false => exact absurd (hl.trans hr.symm) hone

/-- Arithmetic with turned operands. -/
lemma arithmetic_turn (p : Path) (x y : Emit Scalar) :
    arithmetic ctx op (l.turn places (0 :: p)) (r.turn places (1 :: p)) x y =
      arithmetic ctx op l r x y := by
  have hl : ctx.inferType (l.turn places (0 :: p)) = ctx.inferType l := l.inferType_turn _ _
  have hr : ctx.inferType (r.turn places (1 :: p)) = ctx.inferType r := r.inferType_turn _ _
  rw [arithmetic, hl, hr, arithmetic]

/-- A test for membership in a turned query. -/
lemma subqueryMembership_turn (q : Query) (p : Path) (x : Emit Scalar) (f : Option (Emit Cond)) :
    subqueryMembership ctx (q.turn places p) x f = subqueryMembership ctx q x f := by
  have hcorrelated : ctx.isCorrelated (q.turn places p) = ctx.isCorrelated q :=
    Context.isCorrelated_turn q p
  have hinside : ctx.inside (q.turn places p) = ctx.inside q := Context.inside_turn q p
  rw [subqueryMembership, hcorrelated, hinside]
  cases q
  rfl

/-- A test for existence in a turned query. -/
lemma existence_turn (q : Query) (p : Path) (f g : Option (Emit Cond)) :
    existence ctx (q.turn places p) f g = existence ctx q f g := by
  cases q
  rfl

/-- The statement of a turned query. -/
lemma Select.of_turn (q : Query) (p : Path) (f : Option (Emit Cond)) :
    Select.of ctx (q.turn places p) f = Select.of ctx q f := by
  cases q
  rfl

end Forms

section Compilation

variable {places : Path → Bool}

/-- The forms of what may be constant. -/
lemma unlessConstant_turn (places : Path → Bool) (e : Expr) (p : Path) (f : Forms) :
    Forms.unlessConstant (e.turn places p) f = Forms.unlessConstant e f := by
  cases h : e.isConst with
  | true => rw [e.turn_of_isConst p h]
  | false =>
    rw [Forms.unlessConstant, Forms.unlessConstant, e.isConst_turn, h]
    rfl

mutual

/-- Neither form of an expression depends on turned comparisons. -/
theorem formsOf_turn : (e : Expr) → (p : Path) → (ctx : Context) →
    formsOf (e.turn places p) ctx = formsOf e ctx
  | .value _, _, _ | .column _, _, _ => rfl
  | .unary op e, p, ctx => by
    have he := formsOf_turn e (0 :: p) ctx
    have htype := ctx.inferType_turn places (.unary op e) p
    have hconst := unlessConstant_turn places (.unary op e) p
    rw [Expr.turn] at htype hconst ⊢
    cases op with
    | not => rw [formsOf, formsOf, he, hconst]
    | negate | bitwiseNot => rw [formsOf, formsOf, he, hconst, ofScalar_congr htype rfl]
  | .binary op l r, p, ctx => by
    have hl := formsOf_turn l (0 :: p) ctx
    have hr := formsOf_turn r (1 :: p) ctx
    have htype := ctx.inferType_turn places (.binary op l r) p
    have hconst := unlessConstant_turn places (.binary op l r) p
    -- A comparison is turned only between a constant and another operand.  The operands are then
    -- written in each other's place, and the comparison turns them back.
    rcases Expr.turn_binary p op l r with h | ⟨hop, hone, h⟩
    · rw [h] at hconst htype ⊢
      rw [formsOf, formsOf, hl, hr, hconst, comparison_kept, arithmetic_turn,
        ofScalar_congr htype rfl]
    · have hlogical := BinaryOp.not_isLogical_of_isComparison hop
      rw [h] at hconst ⊢
      rw [formsOf, formsOf, hl, hr, hconst, op.isLogical_commute, op.isComparison_commute,
        comparison_turned p hone]
      simp only [if_neg hlogical, if_pos hop]
  | .cast e ty implicit, p, ctx => by
    have he := formsOf_turn e (0 :: p) ctx
    have hconst := unlessConstant_turn places (.cast e ty implicit) p
    rw [Expr.turn] at hconst ⊢
    rw [formsOf, formsOf, he, hconst, isWidening_turn]
    rfl
  | .conditional test yes no, p, ctx => by
    have ht := formsOf_turn test (0 :: p) ctx
    have hy := formsOf_turn yes (1 :: p) ctx
    have hn := formsOf_turn no (2 :: p) ctx
    have htype := ctx.inferType_turn places (.conditional test yes no) p
    have hconst := unlessConstant_turn places (.conditional test yes no) p
    rw [Expr.turn] at htype hconst ⊢
    rw [formsOf, formsOf, ht, hy, hn, hconst, ofScalar_congr htype rfl]
  | .call func args, p, ctx => by
    have hargs := argumentForms_turn args p 0 ctx
    have htype := ctx.inferType_turn places (.call func args) p
    have hconst := unlessConstant_turn places (.call func args) p
    rw [Expr.turn] at htype hconst ⊢
    rw [formsOf, formsOf, hconst, Call.condition_congr hargs, Call.scalar_congr hargs,
      ofScalar_congr htype rfl]
  | .inList e members, p, ctx => by
    have he := formsOf_turn e (0 :: p) ctx
    have hconst := unlessConstant_turn places (.inList e members) p
    rw [Expr.turn] at hconst ⊢
    rw [formsOf, formsOf, he, hconst]
  | .inSubquery e q, p, ctx => by
    have he := formsOf_turn e (0 :: p) ctx
    -- A query keeps its table and its row, so its filter is read in the same context.
    have hinside : ctx.inside (q.turn places (1 :: p)) = ctx.inside q := Context.inside_turn q _
    have hfilter := queryFilter_turn q (1 :: p) (ctx.inside q)
    rw [Expr.turn, formsOf, he, hinside, hfilter, subqueryMembership_turn, formsOf]
  | .exists q condition, p, ctx => by
    have henter : ctx.enter (q.turn places (0 :: p)) true = ctx.enter q true :=
      Context.enter_turn q _ true
    have hfilter := queryFilter_turn q (0 :: p) (ctx.enter q true)
    have hcondition := optionCondition_turn condition (1 :: p) (ctx.enter q true)
    rw [Expr.turn, formsOf, henter, hfilter, hcondition, existence_turn, formsOf]

/-- The arguments of a call are alike. -/
theorem argumentForms_turn : (es : List Expr) → (p : Path) → (i : Nat) → (ctx : Context) →
    List.Forall₂ Argument.Alike (argumentForms (listTurn places p i es) ctx) (argumentForms es ctx)
  | [], _, _, _ => .nil
  | e :: es, p, i, ctx => by
    have he := formsOf_turn e (i :: p) ctx
    refine .cons ⟨congrArg Forms.scalar he, e.isConst_turn (i :: p), ?_⟩
      (argumentForms_turn es p (i + 1) ctx)
    intro h
    exact e.turn_of_isConst (i :: p) (e.isConst_turn (i :: p) ▸ h)

/-- A condition that may be absent. -/
theorem optionCondition_turn : (o : Option Expr) → (p : Path) → (ctx : Context) →
    optionCondition (optionTurn places p o) ctx = optionCondition o ctx
  | none, _, _ => rfl
  | some e, p, ctx => by
    rw [optionTurn, optionCondition, formsOf_turn e p ctx, optionCondition]

/-- The filter of a query. -/
theorem queryFilter_turn : (q : Query) → (p : Path) → (ctx : Context) →
    queryFilter (q.turn places p) ctx = queryFilter q ctx
  | ⟨_, _, predicate, _, _, _, _, _, _⟩, p, ctx => optionCondition_turn predicate p ctx

end

/-- The context of a turned query. -/
lemma Context.top_turn (d : Dialect) (q : Query) (p : Path) :
    Context.top d (q.turn places p) = Context.top d q := by
  cases q
  rfl

/-- What a query is compiled to does not depend on turned comparisons. -/
theorem ofQuery_turn (d : Dialect) (q : Query) (p : Path) :
    ofQuery d (q.turn places p) = ofQuery d q := by
  rw [ofQuery, Context.top_turn, queryFilter_turn, Select.of_turn, ofQuery]

/-- What an expression is compiled to does not depend on turned comparisons. -/
theorem ofExpr_turn (d : Dialect) (q : Query) (e : Expr) (p : Path) :
    ofExpr d q (e.turn places p) = ofExpr d q e := by
  rw [ofExpr, formsOf_turn, e.isPredicate_turn, ofExpr]

end Compilation

/-- It makes no difference from which side a comparison is read.  Two values compare to the same
truth value from either side, or cannot be compared from either side.  And whatever comparisons with
a constant on exactly one side are turned in a query or an expression, however deep they stand, the
statement is the same in its text and its parameters, or the error is, with the parameters that have
been bound before it. -/
theorem turned_comparisons_agree :
    (∀ (op : BinaryOp) (v w : Value), op.isComparison = true →
      SameTruth (Expr.binary op (.value v) (.value w)).fold
        (Expr.binary op.commute (.value w) (.value v)).fold) ∧
    ∀ (d : Dialect) (places : Path → Bool) (q : Query) (e : Expr) (ps : Parameters),
      (q.turn places []).compile d = q.compile d ∧
      ps.add d (ofQuery d (q.turn places [])) = ps.add d (ofQuery d q) ∧
      (e.turn places []).compile d q = e.compile d q ∧
      ps.add d (ofExpr d q (e.turn places [])) = ps.add d (ofExpr d q e) := by
  refine ⟨fun op v w hop => fold_commute hop v w, fun d places q e ps => ?_⟩
  rw [Query.compile, Expr.compile, ofQuery_turn, ofExpr_turn]
  exact ⟨rfl, rfl, rfl, rfl⟩

/-- A table of doors. -/
def doorTable : Table :=
  .of "Door" [⟨"height", "Height", .float, false, false⟩] (by decide)

/-- A table of persons. -/
def personTable : Table :=
  .of "Person" [⟨"height", "Height", .float, false, false⟩] (by decide)

/-- The doors that satisfy a condition, if there is a person that satisfies another. -/
def doorsFor (door person : Expr) : Query :=
  { Query.all doorTable ⟨0⟩ with
    predicate := some (.binary .and door (.exists (Query.all personTable ⟨1⟩) (some person))) }

/-- The comparisons of a filter and of a condition inside it are turned, and the statement is the
same.  The float is not less than three from either side. -/
theorem turned_comparisons_agree_doors :
    (doorsFor (.binary .lessThan (.column ⟨⟨0⟩, 0⟩) (.value (.int 2)))
        (.binary .equal (.value (.int 3)) (.column ⟨⟨1⟩, 0⟩))).compile .sqlite =
      (doorsFor (.binary .greaterThan (.value (.int 2)) (.column ⟨⟨0⟩, 0⟩))
        (.binary .equal (.column ⟨⟨1⟩, 0⟩) (.value (.int 3)))).compile .sqlite ∧
    SameTruth (Expr.binary .lessThan (.value (.float 3)) (.value (.int 3))).fold
      (Expr.binary .greaterThan (.value (.int 3)) (.value (.float 3))).fold := by
  obtain ⟨hfold, hcompile⟩ := turned_comparisons_agree
  obtain ⟨hquery, -, -, -⟩ := hcompile .sqlite (fun _ => true)
    (doorsFor (.binary .greaterThan (.value (.int 2)) (.column ⟨⟨0⟩, 0⟩))
      (.binary .equal (.column ⟨⟨1⟩, 0⟩) (.value (.int 3)))) .null ⟨1, []⟩
  exact ⟨hquery, hfold .lessThan (.float 3) (.int 3) rfl⟩

end TableQuery.Sql
