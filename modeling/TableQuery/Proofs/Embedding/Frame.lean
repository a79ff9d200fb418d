import TableQuery.Proofs.Emission.Needs

/-!
# Places in expressions

A place in an expression is given by the frames around it, from the outside in (`Frame`, `Spot`).
Frames lead through operands and into the filters of queries that membership is tested in, but not
into tests for the existence of a row.

Two frames leave out what stands in them (`Frame.drops`); all others need its forms (`Frame.needs`).
-/

namespace TableQuery

/-- The query with another filter. -/
def Query.filteredBy (q : Query) (e : Expr) : Query := { q with predicate := some e }

namespace Sql

/-- An expression without one of its operands. -/
inductive Frame where
  | unary (op : UnaryOp)
  | left (op : BinaryOp) (right : Expr)
  | right (op : BinaryOp) (left : Expr)
  | cast (ty : ColumnType) (implicit : Bool)
  | test (yes no : Expr)
  | yes (test no : Expr)
  | no (test yes : Expr)
  | argument (func : Func) (before after : List Expr)
  | listed (members : List Value)
  | member (q : Query)
  /-- The missing operand is the filter of the query; the query's own filter does not count. -/
  | filter (operand : Expr) (q : Query)

namespace Frame

/-- The expression with the operand put in. -/
def fill (e : Expr) : Frame → Expr
  | unary op => .unary op e
  | left op r => .binary op e r
  | right op l => .binary op l e
  | cast ty implicit => .cast e ty implicit
  | test y n => .conditional e y n
  | yes c n => .conditional c e n
  | no c y => .conditional c y e
  | argument func before after => .call func (before ++ e :: after)
  | listed members => .inList e members
  | member q => .inSubquery e q
  | filter x q => .inSubquery x (q.filteredBy e)

/-- The place of the operand, where no query reads the rows around it. -/
def place (ctx : Context) : Frame → Context
  | filter _ q => ctx.enter q ctx.qualify
  | _ => ctx

/-- Whether the operand does not stand in a query that reads the rows around it. -/
def isOpen (ctx : Context) (e : Expr) : Frame → Bool
  | filter _ q => !ctx.isCorrelated (q.filteredBy e)
  | _ => true

/-- Whether the operand is left out when the expression is written. -/
def drops : Frame → Bool
  | listed members => members.isEmpty
  | argument func [] after => isEmptySuffix func (.value .null :: after)
  | _ => false

variable {fr : Frame} {ctx : Context} {e : Expr} {P : Prop}

/-- The operand is written in the dialect of the expression. -/
@[simp] lemma dialect_place : (fr.place ctx).dialect = ctx.dialect := by cases fr <;> rfl

/-- The names of the operand are qualified as those of the expression. -/
@[simp] lemma qualify_place : (fr.place ctx).qualify = ctx.qualify := by cases fr <;> rfl

/-- Arguments are not all constant if one of them is not. -/
lemma areConst_of_argument (h : e.isConst = false) (before after : List Expr) :
    Expr.areConst (before ++ e :: after) = false := by
  induction before with
  | nil => rw [List.nil_append, Expr.areConst, h, Bool.false_and]
  | cons a before ih => rw [List.cons_append, Expr.areConst, ih, Bool.and_false]

/-- What holds an operand that is not constant is not constant. -/
lemma isConst_fill (h : e.isConst = false) : (fr.fill e).isConst = false := by
  cases fr with
  | member | filter => rfl
  | argument func before after =>
    rw [fill, Expr.isConst, areConst_of_argument h, Bool.and_false]
  | _ => simp only [fill, Expr.isConst, h, Bool.and_false, Bool.false_and]

/-- The first operand of a call is not looked at to tell whether it is left out, and a pattern that
is not constant is not empty. -/
lemma isEmptySuffix_argument (h : e.isConst = false) (func : Func) (before after : List Expr) :
    isEmptySuffix func (before ++ e :: after) = (argument func before after).drops := by
  match before, after with
  | [], [] | [], [_] | [], _ :: _ :: _ | [_], _ :: _ => cases func <;> rfl
  | [_], [] => cases func <;> simp [isEmptySuffix, drops, h]
  | _ :: _ :: rest, after =>
    obtain ⟨a, as, harguments⟩ := List.exists_cons_of_ne_nil
      (List.append_ne_nil_of_right_ne_nil rest (List.cons_ne_nil e after))
    rw [List.cons_append, List.cons_append, harguments]
    cases func <;> rfl

/-- A query that the operand may stand in does not read the rows around it. -/
lemma plain_of_isOpen {x : Expr} {q : Query} (h : (filter x q).isOpen ctx e = true) :
    ctx.isCorrelated (q.filteredBy e) = false := by
  simpa only [isOpen, Bool.not_eq_true'] using h

/-- Inside a query that does not read the rows around it, names are qualified as around it. -/
lemma inside_of_isOpen {x : Expr} {q : Query} (h : (filter x q).isOpen ctx e = true) :
    ctx.inside (q.filteredBy e) = (filter x q).place ctx := by
  rw [Context.inside, plain_of_isOpen h, Bool.or_false]
  rfl

/-- An expression needs what its operand needs, unless it leaves the operand out. -/
theorem needs (const : e.isConst = false) (hopen : fr.isOpen ctx e = true)
    (hwritten : fr.drops = false) (h : (formsOf e (fr.place ctx)).Needs P) :
    (formsOf (fr.fill e) ctx).Needs P := by
  have hconst : e.isConst = true → P := by
    rw [const]
    exact nofun
  have htrue : ∀ {x : Expr}, x.isConst = true → True := fun _ => trivial
  cases fr with
  | unary op => exact formsOf_unary_needs h hconst
  | left op r => exact (formsOf_binary_needs h Forms.needs_true hconst htrue).mono And.left
  | right op l => exact (formsOf_binary_needs Forms.needs_true h htrue hconst).mono And.right
  | cast ty implicit => exact formsOf_cast_needs h hconst
  | test yes no =>
    exact (formsOf_conditional_needs h Forms.needs_true Forms.needs_true hconst htrue htrue).mono
      And.left
  | yes test no =>
    exact (formsOf_conditional_needs Forms.needs_true h Forms.needs_true htrue hconst htrue).mono
      fun hall => hall.2.1
  | no test yes =>
    exact (formsOf_conditional_needs Forms.needs_true Forms.needs_true h htrue htrue hconst).mono
      fun hall => hall.2.2
  | argument func before after =>
    refine (formsOf_argument_needs ?_ h hconst ?_)
    · exact List.mem_append_right before List.mem_cons_self
    · rw [isEmptySuffix_argument const]
      exact hwritten
  | listed members => exact formsOf_inList_needs h hconst hwritten
  | member q => exact (formsOf_inSubquery_needs h (needsIfPresent_self _)).mono And.left
  | filter x q =>
    have hfilter : NeedsIfPresent
        (queryFilter (q.filteredBy e) (ctx.inside (q.filteredBy e))) P := by
      rw [inside_of_isOpen hopen]
      exact h.1
    exact (formsOf_inSubquery_needs Forms.needs_true hfilter).mono And.right

end Frame

/-- A place in an expression, given by the frames around it, the outermost first. -/
abbrev Spot : Type := List Frame

namespace Spot

/-- The expression around a place, with another put in. -/
def fill (e : Expr) : Spot → Expr
  | [] => e
  | fr :: s => fr.fill (fill e s)

/-- The context of a place. -/
def place : Spot → Context → Context
  | [], ctx => ctx
  | fr :: s, ctx => place s (fr.place ctx)

/-- Whether a place is in no query that reads the rows around it. -/
def isOpen (e : Expr) : Spot → Context → Bool
  | [], _ => true
  | fr :: s, ctx => fr.isOpen ctx (fill e s) && isOpen e s (fr.place ctx)

/-- Whether what stands in a place is left out when the expression is written. -/
def drops (s : Spot) : Bool := s.any Frame.drops

variable {s : Spot} {ctx : Context} {e : Expr} {P : Prop}

/-- What stands in a place is written in the dialect of the whole. -/
@[simp] lemma dialect_place : (place s ctx).dialect = ctx.dialect := by
  induction s generalizing ctx with
  | nil => rfl
  | cons fr s ih => rw [place, ih, Frame.dialect_place]

/-- The names of what stands in a place are qualified as those of the whole. -/
@[simp] lemma qualify_place : (place s ctx).qualify = ctx.qualify := by
  induction s generalizing ctx with
  | nil => rfl
  | cons fr s ih => rw [place, ih, Frame.qualify_place]

/-- What is around a place is not constant if what stands there is not. -/
lemma isConst_fill (h : e.isConst = false) : (fill e s).isConst = false := by
  induction s with
  | nil => exact h
  | cons fr s ih => exact Frame.isConst_fill ih

/-- An expression needs what the expression in a place needs, if that is not left out. -/
theorem needs (const : e.isConst = false) (hopen : isOpen e s ctx = true)
    (hwritten : s.drops = false) (h : (formsOf e (place s ctx)).Needs P) :
    (formsOf (fill e s) ctx).Needs P := by
  induction s generalizing ctx with
  | nil => exact h
  | cons fr s ih =>
    rw [isOpen, Bool.and_eq_true] at hopen
    rw [drops, List.any_cons, Bool.or_eq_false_iff] at hwritten
    exact Frame.needs (isConst_fill const) hopen.1 hwritten.1 (ih hopen.2 hwritten.2 h)

end Spot

end Sql

end TableQuery
