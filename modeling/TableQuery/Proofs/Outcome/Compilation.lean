import TableQuery.Proofs.Outcome.Constants
import TableQuery.Proofs.Outcome.Expression
import TableQuery.Proofs.Sharing

/-!
# How compilations end

What can be compiled in one dialect can be compiled in all (`compile_portable`).

If a request cannot be compiled, then the error has one of four kinds, and there is a reason for it
in the request (`CompileError`): an expression that cannot be written, a column that is not found, a
subquery that may not stand in its place, or a query that cannot be sorted.  One such reason is a
constant that cannot be folded.  Wherever it stands, nothing is compiled then (`Request.Folds`); the
step that has asked for its value fails with the error that the constant has none, and the cause of
that error is whatever has kept the constant from being folded (`compile_errors`).
-/

namespace TableQuery

/-- The value of a constant is of no use for its kind or as an argument. -/
lemma Value.Misplaced.kind {v : Value} {err : Error} (h : v.Misplaced err) :
    (∃ fault, err.cause = .unsupportedExpression fault) ∨
      ∃ fault, err.cause = .invalidArgument fault := by
  cases h with
  | literalPredicate | comparisonWithNull | patternKind => exact .inl ⟨_, rfl⟩
  | nullPattern | substringKind | substringRange => exact .inr ⟨_, rfl⟩

/-- A query cannot be sorted as it is written or for want of a key. -/
lemma Query.KeyError.kind {q : Query} {err : Error} (h : q.KeyError err) :
    (∃ fault, err.cause = .unsupportedExpression fault) ∨
      ∃ fault, err.cause = .invalidSchema fault := by
  cases h with
  | lastOverPage => exact .inl ⟨_, rfl⟩
  | noPrimaryKey => exact .inr ⟨_, rfl⟩

/-- An expression cannot be written for one of three kinds of reasons. -/
lemma PartError.kind {es : List Expr} {err : Error} (h : PartError es err) :
    (∃ fault, err.cause = .unsupportedExpression fault) ∨
      (∃ fault, err.cause = .invalidArgument fault) ∨
        ∃ fault, err.cause = .invalidSchema fault := by
  cases h with
  | value _ _ _ misplaced => exact misplaced.kind.imp_right .inl
  | membershipKeys _ keys => exact keys.kind.imp_right .inr
  | callArity => exact .inr (.inl ⟨_, rfl⟩)
  | _ => exact .inl ⟨_, rfl⟩

namespace Sql

namespace Request

/-- The expressions that a request is compiled from. -/
def parts : Request → List Expr
  | query q => q.parts
  | expr _ e => e.parts

/-- The place where the expressions of a request stand. -/
def place (d : Dialect) : Request → Context
  | query q | expr q _ => Context.top d q

/-- The columns that a request reads, and the places where. -/
def sites (d : Dialect) : Request → List Site
  | query q => querySites q (Context.top d q)
  | expr q e => exprSites e (Context.top d q)

/-- The subqueries of a request. -/
def subqueries (d : Dialect) : Request → List Subquery
  | query q => querySubqueries q (Context.top d q)
  | expr q e => exprSubqueries e (Context.top d q)

/-- The expression of a request, or the filter of its query. -/
def root? : Request → Option Expr
  | query q => q.predicate
  | expr _ e => some e

/-- The constants that are folded for a request: the whole expression, if it is one, and those that
are folded for what stands in the request at any depth. -/
inductive Folds (d : Dialect) : Request → Expr → Prop
  | filter {q p} : q.predicate = some p → p.isConst = true → Folds d (.query q) p
  | test {q e} : e.isPredicate = true → e.isConst = true → Folds d (.expr q e) e
  | value {q e} : e.isPredicate = false → e.isConst = true →
    Folds d (.expr q e) (stripWidening (Context.top d q) e)
  | inside {r e whole c} : r.root? = some e → Relation.ReflTransGen Operand whole e →
    whole.isConst = false → FoldedFor (r.place d) c whole → Folds d r c

end Request

/-- The errors that the compilation of a request may end with. -/
inductive CompileError (d : Dialect) (r : Request) : Error → Prop
  /-- One of the expressions of the request cannot be written, whatever rows are in reach. -/
  | part {err : Error} (h : PartError r.parts err) : CompileError d r err
  /-- A column is not found in a place where it is read. -/
  | column {s : Site} {err : Error} (mem : s ∈ r.sites d)
    (missing : s.place.columnName s.ref = .error err) : CompileError d r err
  /-- A subquery may not stand in its place. -/
  | subquery {s : Subquery} (mem : s ∈ r.subqueries d) (refused : s.isRefused = true) :
    CompileError d r s.refusal
  /-- The query cannot be sorted as it must be. -/
  | keys {q : Query} {err : Error} (query : r = .query q) (keys : q.KeyError err) :
    CompileError d r err

variable {d : Dialect} {r : Request} {err : Error}

/-- The errors of a compilation are of four kinds. -/
lemma CompileError.kind (h : CompileError d r err) :
    (∃ fault, err.cause = .unsupportedExpression fault) ∨
      (∃ member table, err.cause = .unresolvableMember member table) ∨
        (∃ fault, err.cause = .invalidArgument fault) ∨
          ∃ fault, err.cause = .invalidSchema fault := by
  cases h with
  | part h => exact h.kind.imp_right .inr
  | column mem missing =>
    obtain ⟨member, table, rfl⟩ := Context.columnName_error missing
    exact .inr (.inl ⟨member, table, rfl⟩)
  | @subquery s mem refused =>
    cases s with
    | _ => exact .inl ⟨_, rfl⟩
  | keys query keys => exact keys.kind.imp_right fun h => .inr (.inr h)

/-- What the compilation of a request may end with accounts for all that its step fails with. -/
lemma Request.accounts (d : Dialect) (r : Request) :
    Accounts (CompileError d r) r.parts (r.sites d) (r.subqueries d) :=
  ⟨fun _ => .part, fun _ mem _ => .column mem, fun _ mem => .subquery mem⟩

/-- The step of a request succeeds in all dialects or in none, and fails with such an error. -/
lemma Request.emit_portable (d : Dialect) (r : Request) :
    Portable (CompileError d r) fun d' => r.emit d' := by
  cases r with
  | query q => exact ofQuery_portable d q (fun _ => .keys rfl) (Request.accounts d (.query q))
  | expr q e => exact ofExpr_portable d q e (Request.accounts d (.expr q e))

/-- A request is compiled just if its step succeeds. -/
lemma Request.compile_ok_iff (d : Dialect) (r : Request) :
    (∃ st, r.compile d = .ok st) ↔ (r.emit d).Succeeds := by
  rw [compile_eq, Statement.of, Emit.Succeeds]
  cases (r.emit d).result with
  | error err =>
    constructor
    · rintro ⟨st, h⟩
      cases h
    · rintro ⟨f, h⟩
      cases h
  | ok f => exact iff_of_true ⟨_, rfl⟩ ⟨f, rfl⟩

/-- What the compilation of a request fails with is the error of its step. -/
lemma Request.compile_error (h : r.compile d = .error err) : (r.emit d).result = .error err := by
  rw [compile_eq, Statement.of] at h
  cases hr : (r.emit d).result with
  | error err' =>
    rw [hr] at h
    cases h
    rfl
  | ok f =>
    rw [hr] at h
    cases h

/-- With shared parameters too, a request fails with the error of its step. -/
lemma Parameters.add_error {p : Parameters} (h : (p.add d (r.emit d)).1 = .error err) :
    (r.emit d).result = .error err := by
  unfold add at h
  cases hr : (r.emit d).result with
  | error err' =>
    rw [hr] at h
    cases h
    rfl
  | ok f =>
    rw [hr] at h
    cases h

/-- There is a reason in a request for what its compilation fails with. -/
lemma Request.compileError_of_compile (h : r.compile d = .error err) : CompileError d r err :=
  (r.emit_portable d).fails d (compile_error h)

/-- A request that can be compiled in one dialect can be compiled in every other. -/
lemma Request.compile_ok_congr (d d' : Dialect) (r : Request) :
    (∃ st, r.compile d = .ok st) ↔ ∃ st, r.compile d' = .ok st := by
  obtain ⟨P, hP⟩ := r.emit_portable d
  rw [compile_ok_iff, compile_ok_iff]
  exact (hP d).succeeds.trans (hP d').succeeds.symm

/-- Let there be two dialects.  A query can be compiled in the one just if it can be compiled in the
other, and so can any expression over its row. -/
theorem compile_portable (d d' : Dialect) (q : Query) :
    ((∃ st, q.compile d = .ok st) ↔ ∃ st, q.compile d' = .ok st) ∧
      ∀ e : Expr, (∃ st, e.compile d q = .ok st) ↔ ∃ st, e.compile d' q = .ok st :=
  ⟨Request.compile_ok_congr d d' (.query q), fun e => Request.compile_ok_congr d d' (.expr q e)⟩

/-- A request is compiled only if the constants that are folded for it have values. -/
theorem Request.Folds.needs {c : Expr} (h : r.Folds d c) : (r.emit d).Needs c.HasValue := by
  cases h with
  | filter hq const => exact (Select.of_needs (queryFilter_needs_value hq const)).first
  | @test q _ htest const =>
    show (ofExpr d q c).Needs _
    rw [ofExpr, if_pos htest]
    exact (condition_needs_value _ const).first
  | @value q e hvalue const =>
    show (ofExpr d q e).Needs _
    rw [ofExpr, hvalue, if_neg Bool.false_ne_true]
    exact (scalar_needs_value _ _ const).first
  | inside hroot hwhole hconst hfolded =>
    have hneeds := needs_of_operands hwhole hconst (hfolded.needs hconst)
    cases r with
    | query q => exact (Select.of_needs (queryFilter_needs_of hroot hneeds)).first
    | expr q e =>
      cases hroot
      show (ofExpr d q _).Needs _
      unfold ofExpr
      split
      · exact (hneeds _).1.first
      · exact (hneeds _).2.first

/-- A request that is not compiled fails with some error. -/
lemma Request.exists_compile_error (h : ¬(r.emit d).Succeeds) :
    ∃ err, r.compile d = .error err := by
  cases hcompile : r.compile d with
  | error err => exact ⟨err, rfl⟩
  | ok st => exact absurd ((r.compile_ok_iff d).mp ⟨st, hcompile⟩) h

/-- With shared parameters a request fails with the error that it fails with on its own. -/
lemma Parameters.add_eq_error {p : Parameters} (h : r.compile d = .error err) :
    (p.add d (r.emit d)).1 = .error err := by
  rw [Parameters.add, Request.compile_error h]
  rfl

/-- A table of badges with tokens. -/
def badgeTable : Table :=
  .of "badges"
    [⟨"Id", "Id", .int, false, true⟩, ⟨"Token", "Token", .guid, true, false⟩] (by decide)

/-- A text that is no identifier, as an identifier. -/
def badToken : Expr := .cast (.value (.text "x")) .guid false

/-- The badges with a token that is none. -/
def forgedBadges : Query :=
  { Query.all badgeTable ⟨1⟩ with
    predicate := some (.binary .equal (.column ⟨⟨1⟩, 1⟩) badToken)
    projection := [0] }

/-- The badges whose numbers are among those of the badges with a token that is none. -/
def badgeQuery : Query :=
  { Query.all badgeTable ⟨0⟩ with
    predicate := some (.inSubquery (.column ⟨⟨0⟩, 0⟩) forgedBadges) }

end Sql

end TableQuery
