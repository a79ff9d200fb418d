import TableQuery.Proofs.Emission.Present

/-!
# How steps end

An error of a compilation lies in one of the expressions that are written (`PartError`), in a column
that is not found, in a subquery that is refused, or in the sort keys of a query (`Query.KeyError`).
Most errors say on their own what is wrong.  One that says that a constant has no value has as its
cause whatever kept the constant from being folded; and an error that says that the value of a
constant is of no use says so of a constant that has the value (`Value.Misplaced`).

A step decides a fact (`Emit.Decides`) if it succeeds just if the fact holds, and otherwise fails
with one of some errors.  Steps one after another decide what they decide each, in whatever order
they are taken and however often.  So dialects that write something in different ways can write the
same things.
-/

namespace TableQuery

/-- The error that a constant has no value, for what has kept it from being folded. -/
def unfolded (e : Expr) (failure : Error) : Error :=
  failure.context (.unsupportedExpression (.constant e.describe))

/-- The error that the value of a constant is of no use where the constant stands. -/
inductive Value.Misplaced : Value → Error → Prop
  /-- A condition is a truth value. -/
  | literalPredicate {v : Value} (kind : ∀ b, v ≠ .bool b) :
    Misplaced v (.unsupportedExpression (.literalPredicate v.type?))
  /-- Null is tested for, but not compared with otherwise. -/
  | comparisonWithNull (op : BinaryOp) :
    Misplaced .null (.unsupportedExpression (.comparisonWithNull op))
  /-- A pattern is not null. -/
  | nullPattern (func : Func) : Misplaced .null (.invalidArgument (.nullPattern func))
  /-- A pattern is a text. -/
  | patternKind {v : Value} (func : Func) (kind : ∀ s, v ≠ .text s) (null : v ≠ .null) :
    Misplaced v (.unsupportedExpression (.patternKind func v.type?))
  /-- The place where a part of a text begins is an integer. -/
  | substringKind {v : Value} (kind : ∀ n, v ≠ .int n) :
    Misplaced v (.invalidArgument (.substringKind v.type?))
  /-- The place where a part of a text begins can be counted from one. -/
  | substringRange {n : Int64} (range : Number.int64? (n.toInt + 1) = none) :
    Misplaced (.int n) (.invalidArgument (.substringRange n.toInt))

/-- The storage class that an expression converts its operand to, if it is a conversion. -/
def Expr.target? : Expr → Option ColumnType
  | .cast _ ty _ => some ty
  | .call (.convertTo ty) _ => some ty
  | _ => none

/-- The error that a query cannot be sorted as it must be. -/
inductive Query.KeyError (q : Query) : Error → Prop
  /-- The last row is not read of a page. -/
  | lastOverPage (last : q.terminal.isLast = true) (paged : q.isPaged = true) :
    KeyError q (.unsupportedExpression (.lastOverPage q.terminal))
  /-- There is no key to sort by. -/
  | noPrimaryKey (orderings : q.orderings = []) (key : q.table.primaryKeyIndex? = none) :
    KeyError q (.invalidSchema (.noPrimaryKey q.table.name))

/-- An error that lies in one of some expressions, whatever rows are in reach. -/
inductive PartError (es : List Expr) : Error → Prop
  /-- A constant has no value, for a cause that the error keeps. -/
  | constant {e : Expr} {failure : Error} (mem : e ∈ es) (const : e.isConst = true)
    (fold : e.fold = .error failure) : PartError es (unfolded e failure)
  /-- A constant has a value, which is of no use where it stands. -/
  | value {e : Expr} {v : Value} {err : Error} (mem : e ∈ es) (const : e.isConst = true)
    (fold : e.fold = .ok v) (misplaced : v.Misplaced err) : PartError es err
  /-- An expression that has no truth value stands as a condition. -/
  | typedPredicate {e : Expr} {columnType : ColumnRef → Option ColumnType} {ty : ColumnType}
    (mem : e ∈ es) (infer : e.inferType columnType = some ty) (kind : ty.isBool = false) :
    PartError es (.unsupportedExpression (.typedPredicate e.describe ty))
  /-- A dialect has no type to convert to. -/
  | conversion {e : Expr} {d : Dialect} {ty : ColumnType} (mem : e ∈ es)
    (target : e.target? = some ty) (name : Sql.TypeName.of? d ty = none) :
    PartError es (.unsupportedExpression (.conversion ty d))
  /-- A call has a wrong number of arguments. -/
  | callArity {func : Func} {args : List Expr} (mem : .call func args ∈ es)
    (arity : func.admits args.length = false) :
    PartError es (.invalidArgument (.callArity func args.length))
  /-- Membership is asked for in a query that does not have one column. -/
  | membershipColumns {e : Expr} {q : Query} (mem : .inSubquery e q ∈ es)
    (columns : q.projection.length ≠ 1) :
    PartError es (.unsupportedExpression (.membershipColumns q.projection.length))
  /-- Membership is asked for in a query that has a terminal. -/
  | membershipTerminal {e : Expr} {q : Query} (mem : .inSubquery e q ∈ es)
    (terminal : q.terminal.isSequence = false) :
    PartError es (.unsupportedExpression (.membershipTerminal q.terminal))
  /-- Membership is asked for in a query that cannot be sorted as it must be. -/
  | membershipKeys {e : Expr} {q : Query} {err : Error} (mem : .inSubquery e q ∈ es)
    (keys : q.KeyError err) : PartError es err
  /-- A page is asked whether it has a row. -/
  | pagedExists {q : Query} {condition : Option Expr} (mem : .exists q condition ∈ es)
    (paged : q.isPaged = true) : PartError es (.unsupportedExpression .pagedExists)
  /-- A query with a terminal is asked whether it has a row. -/
  | existsTerminal {q : Query} {condition : Option Expr} (mem : .exists q condition ∈ es)
    (terminal : q.terminal ≠ .sequence ∧ q.terminal ≠ .any) :
    PartError es (.unsupportedExpression (.existsTerminal q.terminal))

/-- A cause that lies in the rows in reach. -/
def Cause.AboutRows : Cause → Prop
  | .unresolvableMember .. => True
  | .unsupportedExpression (.correlatedExists _) => True
  | .unsupportedExpression (.correlatedSubquery _) => True
  | _ => False

variable {E : Error → Prop} {es fs : List Expr} {err : Error}

/-- Some errors include all that lie in some expressions. -/
def Includes (E : Error → Prop) (es : List Expr) : Prop := ∀ err, PartError es err → E err

/-- The value of a constant does not depend on the rows in reach. -/
lemma Value.Misplaced.not_aboutRows {v : Value} (h : v.Misplaced err) : ¬err.cause.AboutRows := by
  cases h <;> exact id

/-- The sort keys of a query do not depend on the rows in reach. -/
lemma Query.KeyError.not_aboutRows {q : Query} (h : q.KeyError err) : ¬err.cause.AboutRows := by
  cases h <;> exact id

/-- If the rows that a query counts cannot be sorted, then the query cannot be sorted. -/
lemma Query.KeyError.of_sequence {q : Query} (h : { q with terminal := .sequence }.KeyError err) :
    q.KeyError err := by
  cases h with
  | lastOverPage last => cases last
  | noPrimaryKey orderings key => exact .noPrimaryKey orderings key

/-- An error that lies in an expression does not lie in the rows in reach. -/
lemma PartError.not_aboutRows (h : PartError es err) : ¬err.cause.AboutRows := by
  cases h with
  | value _ _ _ misplaced => exact misplaced.not_aboutRows
  | membershipKeys _ keys => exact keys.not_aboutRows
  | _ => exact id

/-- An error that lies in some expressions lies in more of them. -/
lemma PartError.mono (h : PartError fs err) (hsub : fs ⊆ es) : PartError es err := by
  cases h with
  | constant mem const fold => exact .constant (hsub mem) const fold
  | value mem const fold misplaced => exact .value (hsub mem) const fold misplaced
  | typedPredicate mem infer kind => exact .typedPredicate (hsub mem) infer kind
  | conversion mem target name => exact .conversion (hsub mem) target name
  | callArity mem arity => exact .callArity (hsub mem) arity
  | membershipColumns mem columns => exact .membershipColumns (hsub mem) columns
  | membershipTerminal mem terminal => exact .membershipTerminal (hsub mem) terminal
  | membershipKeys mem keys => exact .membershipKeys (hsub mem) keys
  | pagedExists mem paged => exact .pagedExists (hsub mem) paged
  | existsTerminal mem terminal => exact .existsTerminal (hsub mem) terminal

/-- What includes the errors of some expressions includes those of fewer. -/
lemma Includes.mono (h : Includes E es) (hsub : fs ⊆ es) : Includes E fs :=
  fun err herr => h err (herr.mono hsub)

namespace Sql

/-- A constant has no value if it cannot be folded. -/
lemma constant_of_fold {e : Expr} {failure : Error} (h : e.fold = .error failure) :
    constant e = .error (unfolded e failure) := by
  unfold Sql.constant
  rw [h]
  rfl

/-- What a constant without a value fails with has the cause that kept it from being folded. -/
lemma constant_error {e : Expr} {err : Error} (hE : Includes E es) (mem : e ∈ es)
    (const : e.isConst = true) (h : constant e = .error err) : E err := by
  cases hfold : e.fold with
  | ok v =>
    unfold Sql.constant at h
    rw [hfold] at h
    cases h
  | error failure =>
    cases (constant_of_fold hfold).symm.trans h
    exact hE _ (.constant mem const hfold)

/-- What a constant fails with whose value is of no use. -/
lemma constant_misplaced {e : Expr} {v : Value} {err : Error} (hE : Includes E es) (mem : e ∈ es)
    (const : e.isConst = true) (h : constant e = .ok v) (hv : v.Misplaced err) : E err :=
  hE _ (.value mem const (fold_of_constant h) hv)

namespace Emit

variable {α β γ : Type} {x : Emit α} {y : Emit β} {P Q : Prop} {err : Error}

/-- A step succeeds just if a fact holds, and otherwise fails with one of some errors. -/
structure Decides (E : Error → Prop) (x : Emit α) (P : Prop) : Prop where
  succeeds : x.Succeeds ↔ P
  fails : ∀ err, x.result = .error err → E err

namespace Decides

/-- A step that decides a fact decides the same fact said in another way. -/
lemma congr (hx : x.Decides E P) (h : P ↔ Q) : x.Decides E Q := ⟨hx.succeeds.trans h, hx.fails⟩

/-- What a step decides is a matter of its result. -/
lemma of_result {z : Emit α} (h : x.result = z.result) (hz : z.Decides E P) : x.Decides E P := by
  refine ⟨?_, fun err herr => hz.fails err (h ▸ herr)⟩
  rw [Succeeds, h]
  exact hz.succeeds

/-- A step that only returns does not fail. -/
lemma pure (a : α) : (Pure.pure a : Emit α).Decides E True := by
  refine ⟨iff_true_intro ⟨a, rfl⟩, ?_⟩
  intro err herr
  cases herr

/-- A step whose result is an error fails. -/
lemma error (hx : x.result = .error err) (h : E err) : x.Decides E False := by
  refine ⟨iff_false_intro ?_, ?_⟩
  · rintro ⟨a, ha⟩
    cases hx.symm.trans ha
  · intro err' herr
    cases hx.symm.trans herr
    exact h

/-- A step that fails. -/
lemma fail (h : E err) : (Emit.fail err : Emit α).Decides E False := error rfl h

/-- A step after one that fails is not taken. -/
lemma error_bind {f : α → Emit β} (hx : x.result = .error err) (h : E err) :
    (x >>= f).Decides E False := by
  refine error ?_ h
  rw [result_bind, hx]
  rfl

/-- A step after one that succeeds decides the whole. -/
lemma ok_bind {f : α → Emit β} {a : α} (hx : x.result = .ok a) (hf : (f a).Decides E P) :
    (x >>= f).Decides E P :=
  hf.of_result (result_bind_ok hx)

/-- One step after another, where what the second decides may depend on what the first gives. -/
lemma bind' {f : α → Emit β} {R : α → Prop} (hx : x.Decides E P)
    (hf : ∀ a, x.result = .ok a → (f a).Decides E (R a)) :
    (x >>= f).Decides E (∃ a, x.result = .ok a ∧ R a) := by
  cases hr : x.result with
  | error err => exact (error_bind hr (hx.fails err hr)).congr (by simp)
  | ok a => exact (ok_bind hr (hf a hr)).congr (by simp)

/-- One step after another, where the second decides a fact whatever the first gives. -/
lemma bind {f : α → Emit β} (hx : x.Decides E P) (hf : ∀ a, (f a).Decides E Q) :
    (x >>= f).Decides E (P ∧ Q) := by
  refine (hx.bind' fun a _ => hf a).congr ?_
  rw [← hx.succeeds, Succeeds, exists_and_right]

/-- A function of what a step gives. -/
lemma map {f : α → β} (hx : x.Decides E P) : (do return f (← x)).Decides E P :=
  (hx.bind fun a => .pure (f a)).congr (and_iff_left trivial)

/-- A function of what two steps give. -/
lemma map₂ {f : α → β → γ} (hx : x.Decides E P) (hy : y.Decides E Q) :
    (do let a ← x; return f a (← y)).Decides E (P ∧ Q) :=
  hx.bind fun _ => hy.map

end Decides

end Emit

/-- A literal does not fail. -/
lemma literal_decides (v : Value) : (literal v).Decides E True := by
  unfold literal
  split
  · exact .pure _
  · refine ⟨iff_true_intro ⟨_, rfl⟩, ?_⟩
    intro err herr
    cases herr

end Sql

end TableQuery
