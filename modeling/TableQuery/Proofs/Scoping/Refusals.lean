import TableQuery.Proofs.Scoping.Misses

/-!
# Refused subqueries

A subquery may be refused because its table has the name of one around it: column names are
qualified by tables, and could then not tell the rows apart.  Membership in a query is refused so
only if the query reads a row around it (`Subquery.isCorrelated`).  Whether a query has a row is not
asked either if a row around it has the same table, even if the query reads none of them
(`Subquery.isMistaken`).  But for those, every such error is that of a subquery, at some depth, that
reads a row around it and shares its table with one (`refused_only_if_correlated`).
-/

namespace TableQuery

/-- An error says that a subquery may not stand in its place. -/
def Error.IsRefusal (err : Error) : Prop :=
  ∃ table, err.cause = .unsupportedExpression (.correlatedExists table) ∨
    err.cause = .unsupportedExpression (.correlatedSubquery table)

/-- That a query is refused is an error about rows. -/
lemma Error.IsRefusal.aboutRows {err : Error} (h : err.IsRefusal) : err.cause.AboutRows := by
  obtain ⟨table, hcause | hcause⟩ := h <;> rw [hcause] <;> trivial

namespace Sql

namespace Subquery

/-- The filter of a subquery and its further condition. -/
def conditions : Subquery → List Expr
  | membership _ query => query.predicate.toList
  | existence _ query condition => query.predicate.toList ++ condition.toList

/-- Whether a subquery reads a row around it. -/
def isCorrelated (s : Subquery) : Bool :=
  s.place.scopes.any fun row => s.conditions.any fun e => e.references row.source

/-- Whether a subquery is refused although it reads no row around it. -/
def isMistaken (s : Subquery) : Bool := s.isRefused && !s.isCorrelated

variable {s : Subquery} {place : Context} {q : Query}

/-- A query in a test for membership reads a row around it just if its filter does. -/
lemma isCorrelated_membership :
    (membership place q).isCorrelated = place.isCorrelated q := by
  rw [isCorrelated, Context.isCorrelated]
  cases hp : q.predicate with
  | none => simp [conditions, hp]
  | some p => simp [conditions, hp, Subquery.place]

/-- Membership is refused only for a query that reads a row around it. -/
lemma isMistaken_membership : (membership place q).isMistaken = false := by
  rw [isMistaken, isCorrelated_membership, isRefused]
  cases place.isCorrelated q <;> simp

/-- A query that is refused reads a table that is read around it. -/
lemma sharesTable_of_isRefused (h : s.isRefused = true) : s.sharesTable = true := by
  cases s with
  | membership place q => exact ((Bool.and_eq_true _ _).mp h).2
  | existence place q condition => exact h

/-- A query that is refused and not by mistake reads a row around it. -/
lemma isCorrelated_of_isRefused (h : s.isRefused = true) (hright : s.isMistaken = false) :
    s.isCorrelated = true := by
  rw [isMistaken, h, Bool.true_and] at hright
  exact (Bool.not_eq_false' _).mp hright

end Subquery

/-- An expression fails, as a condition or as a value. -/
def Forms.FailsWith (f : Forms) (err : Error) : Prop :=
  f.condition.result = .error err ∨ f.scalar.result = .error err

section Refusals

variable {d : Dialect} {ctx : Context} {e : Expr} {q : Query} {condition : Option Expr}
  {err : Error}

/-- The name of a column is no error of a subquery. -/
lemma columnName_not_refusal {ref : ColumnRef} (h : ctx.columnName ref = .error err) :
    ¬err.IsRefusal := by
  rintro ⟨table, hcause⟩
  obtain ⟨member, name, rfl⟩ := Context.columnName_error h
  rcases hcause with hcause | hcause <;> cases hcause

/-- That a subquery is refused is the error of a subquery that may not stand in its place. -/
lemma accounts_refusals (es : List Expr) (sites : List Site) (subqueries : List Subquery) :
    Accounts (fun err => err.IsRefusal → ∃ s ∈ subqueries, s.isRefused = true ∧ err = s.refusal) es
      sites subqueries := by
  refine ⟨fun _ hpart hrefusal => absurd hrefusal.aboutRows hpart.not_aboutRows, ?_, ?_⟩
  · exact fun _ _ _ herr hrefusal => absurd hrefusal (columnName_not_refusal herr)
  · exact fun s hs hrefused _ => ⟨s, hs, hrefused, rfl⟩

/-- If an expression fails because a subquery is refused, then it is one of the expression. -/
theorem refused_of_fails (hfails : (formsOf e ctx).FailsWith err) (herr : err.IsRefusal) :
    ∃ s ∈ exprSubqueries e ctx, s.isRefused = true ∧ err = s.refusal := by
  obtain ⟨hcondition, hscalar⟩ := formsOf_portable e ctx (accounts_refusals e.parts _ _)
  rcases hfails with hfails | hfails
  · exact hcondition.fails ctx.dialect hfails herr
  · exact hscalar.fails ctx.dialect hfails herr

/-- If a request is not compiled because a subquery is refused, then it is one of the request. -/
theorem Request.refused {r : Request} (h : r.compile d = .error err) (herr : err.IsRefusal) :
    ∃ s ∈ r.subqueries d, s.isRefused = true ∧ err = s.refusal := by
  cases Request.compileError_of_compile h with
  | part hpart => exact absurd herr.aboutRows hpart.not_aboutRows
  | column _ missing => exact absurd herr (columnName_not_refusal missing)
  | subquery mem refused => exact ⟨_, mem, refused, rfl⟩
  | keys _ hkeys => exact absurd herr.aboutRows hkeys.not_aboutRows

/-- A query is not asked for a row if a row around it has the same table. -/
lemma existence_refused (hpage : q.isPaged = false)
    (hterminal : q.terminal = .sequence ∨ q.terminal = .any)
    (hshared : (Subquery.existence ctx q condition).sharesTable = true) :
    (formsOf (.exists q condition) ctx).condition.result =
      .error (Subquery.existence ctx q condition).refusal := by
  have hopen : (!(q.terminal == .sequence || q.terminal == .any)) = false := by
    rcases hterminal with h | h <;> rw [h] <;> rfl
  have hshared : ctx.readsTableOf q = true := hshared
  change (existence ctx q _ _).result = _
  rw [existence, if_neg (Bool.eq_false_iff.mp hpage), if_neg (Bool.eq_false_iff.mp hopen),
    if_pos hshared]
  rfl

/-- Let no subquery of an expression be mistaken.  If the expression fails because a subquery is
refused, then that subquery, which stands in it at some depth, reads a row around it and shares its
table with one; and so for a whole request.  Hence an existence that reads no row around it is not
refused unless it is mistaken, and neither is membership, which never is: any such error then comes
from a subquery further in, or from the operand.  An existence that shares its table and reads a row
around it is refused. -/
theorem refused_only_if_correlated (d : Dialect) (ctx : Context) (q : Query)
    (condition : Option Expr) :
    (∀ e err, (formsOf e ctx).FailsWith err → err.IsRefusal →
      (∀ s ∈ exprSubqueries e ctx, s.isMistaken = false) →
        ∃ s ∈ exprSubqueries e ctx,
          s.isCorrelated = true ∧ s.sharesTable = true ∧ err = s.refusal) ∧
    (∀ (r : Request) err, r.compile d = .error err → err.IsRefusal →
      (∀ s ∈ r.subqueries d, s.isMistaken = false) →
        ∃ s ∈ r.subqueries d, s.isCorrelated = true ∧ s.sharesTable = true ∧ err = s.refusal) ∧
    (∀ err, (Subquery.existence ctx q condition).isCorrelated = false →
      (Subquery.existence ctx q condition).isMistaken = false →
        (formsOf (.exists q condition) ctx).FailsWith err → err.IsRefusal →
          ∃ s ∈ querySubqueries q (ctx.enter q true) ++
              optionSubqueries condition (ctx.enter q true),
            s.isRefused = true ∧ err = s.refusal) ∧
    (∀ e err, (Subquery.membership ctx q).isCorrelated = false →
      (formsOf (.inSubquery e q) ctx).FailsWith err → err.IsRefusal →
        ∃ s ∈ exprSubqueries e ctx ++ querySubqueries q (ctx.inside q),
          s.isRefused = true ∧ err = s.refusal) ∧
    (q.isPaged = false → q.terminal = .sequence ∨ q.terminal = .any →
      (Subquery.existence ctx q condition).isCorrelated = true →
        (Subquery.existence ctx q condition).sharesTable = true →
          (formsOf (.exists q condition) ctx).condition.result =
            .error (Subquery.existence ctx q condition).refusal) := by
  -- Where a subquery neither reads a row around it nor is mistaken, another one has been refused.
  have hother : ∀ {s t : Subquery}, s.isCorrelated = false → s.isMistaken = false →
      t.isRefused = true → t ≠ s := by
    rintro s t hfree hright hrefused rfl
    rw [Subquery.isCorrelated_of_isRefused hrefused hright] at hfree
    cases hfree
  refine ⟨?anywhere, ?request, ?existence, ?membership, ?refused⟩
  case anywhere =>
    intro e err hfails herr hright
    obtain ⟨s, hs, hrefused, rfl⟩ := refused_of_fails hfails herr
    exact ⟨s, hs, s.isCorrelated_of_isRefused hrefused (hright s hs),
      s.sharesTable_of_isRefused hrefused, rfl⟩
  case request =>
    intro r err hfails herr hright
    obtain ⟨s, hs, hrefused, rfl⟩ := Request.refused hfails herr
    exact ⟨s, hs, s.isCorrelated_of_isRefused hrefused (hright s hs),
      s.sharesTable_of_isRefused hrefused, rfl⟩
  case existence =>
    intro err hfree hright hfails herr
    obtain ⟨s, hs, hrefused, rfl⟩ := refused_of_fails hfails herr
    exact ⟨s, List.mem_of_ne_of_mem (hother hfree hright hrefused) hs, hrefused, rfl⟩
  case membership =>
    intro e err hfree hfails herr
    obtain ⟨s, hs, hrefused, rfl⟩ := refused_of_fails hfails herr
    have hne := hother hfree Subquery.isMistaken_membership hrefused
    refine ⟨s, ?_, hrefused, rfl⟩
    rw [exprSubqueries, List.mem_append] at hs
    exact List.mem_append.mpr (hs.imp_right (List.mem_of_ne_of_mem hne))
  case refused => exact fun hpage hterminal _ => existence_refused hpage hterminal

end Refusals

/-- A table of players. -/
def playerTable : Table :=
  .of "Players" [⟨"Id", "id", .int, false, true⟩, ⟨"Age", "age", .int, false, false⟩] (by decide)

/-- The players above a given age, by the identity of the row. -/
def olderPlayers (source : SourceId) (age : Expr) : Query :=
  { Query.all playerTable source with
    predicate := some (.binary .greaterThan (.column ⟨source, 1⟩) age) }

/-- Whether there is a player older than another is refused, since it reads the row of that one, and
no other subquery is to blame. -/
theorem refused_only_if_correlated_players :
    Request.compile .sqlServer (.expr (Query.all playerTable ⟨0⟩)
        (.exists (olderPlayers ⟨1⟩ (.column ⟨⟨0⟩, 1⟩)) none)) =
      .error (.unsupportedExpression (.correlatedExists "Players")) ∧
    (∃ s ∈ Request.subqueries .sqlServer (.expr (Query.all playerTable ⟨0⟩)
        (.exists (olderPlayers ⟨1⟩ (.column ⟨⟨0⟩, 1⟩)) none)),
      s.isCorrelated = true ∧ s.sharesTable = true ∧
        .unsupportedExpression (.correlatedExists "Players") = s.refusal) ∧
    (formsOf (.exists (olderPlayers ⟨1⟩ (.column ⟨⟨0⟩, 1⟩)) none)
        (Context.top .sqlServer (Query.all playerTable ⟨0⟩))).condition.result =
      .error (.unsupportedExpression (.correlatedExists "Players")) := by
  obtain ⟨-, hrequest, -, -, hrefused⟩ := refused_only_if_correlated .sqlServer
    (Context.top .sqlServer (Query.all playerTable ⟨0⟩)) (olderPlayers ⟨1⟩ (.column ⟨⟨0⟩, 1⟩)) none
  exact ⟨rfl, hrequest _ _ rfl ⟨_, .inl rfl⟩ (List.forall_mem_singleton.mpr rfl),
    hrefused rfl (.inl rfl) rfl rfl⟩

/-- Whether there is a player of age reads no row of the players around it, and yet is refused; for
membership the same query is compiled. -/
theorem uncorrelated_existence_refused :
    (Subquery.existence (Context.top .sqlite (Query.all playerTable ⟨0⟩))
        (olderPlayers ⟨1⟩ (.value (.int 18))) none).isCorrelated = false ∧
      Expr.compile .sqlite (Query.all playerTable ⟨0⟩)
          (.exists (olderPlayers ⟨1⟩ (.value (.int 18))) none) =
        .error (.unsupportedExpression (.correlatedExists "Players")) ∧
      ∃ st, Expr.compile .sqlite (Query.all playerTable ⟨0⟩)
          (.inSubquery (.column ⟨⟨0⟩, 0⟩)
            { olderPlayers ⟨1⟩ (.value (.int 18)) with projection := [0] }) = .ok st ∧
        st.text = "([Id] IN (SELECT [Id] FROM [Players] WHERE ([Age] > $p1)))" :=
  ⟨rfl, rfl, _, rfl, by decide⟩

end Sql

end TableQuery
