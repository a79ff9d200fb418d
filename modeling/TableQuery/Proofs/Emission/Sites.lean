import Mathlib.Tactic.Lemma
import TableQuery.Sql.Forms

/-!
# Where columns are read

The column references of expressions and queries, each with the place where it stands (`exprSites`,
`querySites`).  A subquery that may not stand in its place reads nothing, since it is not compiled.
Besides its filter, a query reads the columns that it returns and those that it sorts by.

The subqueries of an expression too stand in places (`exprSubqueries`), and may be refused there.
-/

namespace TableQuery

/-- The columns of its own row that a query may return or sort by. -/
def Query.listedColumns (q : Query) : List Nat :=
  q.projection ++ q.orderings.map SortKey.column ++ q.table.primaryKeyIndex?.toList

/-- The sort keys of a query, in either direction, sort by columns of its own row. -/
lemma Query.listedColumns_of_directed {q : Query} {keys : List SortKey} (last : Bool)
    (h : ∀ k ∈ keys, k.column ∈ q.listedColumns) :
    ∀ k ∈ (if last then keys.map SortKey.reverse else keys), k.column ∈ q.listedColumns := by
  cases last with
  | false => exact h
  | true =>
    intro k hk
    obtain ⟨k', hk', rfl⟩ := List.mem_map.mp hk
    exact h k' hk'

/-- The sort keys of a query: none if it counts or only asks for any row; otherwise its own
orderings or, where it has none and the order matters, the primary key, reversed if the last row is
read. -/
lemma Query.sortKeys_cases {q : Query} {keys : List SortKey} (h : q.sortKeys = .ok keys) :
    (keys = [] ∧ (q.terminal.isCount = true ∨ q.terminal = .any ∧ q.skip = none)) ∨
      ∃ ks, keys = (if q.terminal.isLast then ks.map SortKey.reverse else ks) ∧
        ((ks = q.orderings ∧ (q.orderings = [] → q.skip = none ∧ q.terminal.isLast = false)) ∨
          ∃ i, q.table.primaryKeyIndex? = some i ∧ ks = [⟨i, true⟩] ∧ q.orderings = [] ∧
            (q.skip.isSome = true ∨ q.terminal.isLast = true)) := by
  unfold Query.sortKeys at h
  dsimp only at h
  -- In the order of the tests in `sortKeys`.
  by_cases hnone : (q.terminal.isCount || (q.terminal == .any && q.skip.isNone)) = true
  · rw [if_pos hnone] at h
    cases h
    exact .inl ⟨rfl, by simpa using hnone⟩
  rw [if_neg hnone] at h
  by_cases hpage : (q.terminal.isLast && q.isPaged) = true
  · rw [if_pos hpage] at h
    cases h
  rw [if_neg hpage] at h
  refine .inr ?_
  by_cases hdefault : (q.orderings.isEmpty && (q.skip.isSome || q.terminal.isLast)) = true
  · rw [if_pos hdefault] at h
    cases hi : q.table.primaryKeyIndex? with
    | none =>
      rw [hi] at h
      cases h
    | some i =>
      rw [hi] at h
      cases h
      exact ⟨[⟨i, true⟩], rfl, .inr ⟨i, rfl, rfl, by simpa using hdefault⟩⟩
  · rw [if_neg hdefault] at h
    cases h
    exact ⟨q.orderings, rfl, .inl ⟨rfl, by simpa using hdefault⟩⟩

/-- The columns that the statement of a query sorts by are columns of its own row. -/
lemma Query.listedColumns_of_sortKeys {q : Query} {keys : List SortKey}
    (h : q.sortKeys = .ok keys) :
    ∀ k ∈ keys, k.column ∈ q.listedColumns := by
  obtain ⟨rfl, -⟩ | ⟨ks, rfl, ⟨rfl, -⟩ | ⟨i, hi, rfl, -⟩⟩ := q.sortKeys_cases h
  · exact List.forall_mem_nil _
  · refine Query.listedColumns_of_directed q.terminal.isLast fun k hk => ?_
    have hmem : k.column ∈ q.orderings.map SortKey.column := List.mem_map_of_mem hk
    simp only [Query.listedColumns, List.mem_append]
    exact .inl (.inr hmem)
  · refine Query.listedColumns_of_directed q.terminal.isLast fun k hk => ?_
    cases List.mem_singleton.mp hk
    simp [Query.listedColumns, hi]

namespace Sql

/-- The row of a query is in reach. -/
lemma scope?_top {d : Dialect} {q : Query} {source : SourceId} (h : source = q.source) :
    (Context.top d q).scope? source = some (Scope.of q) := by
  subst h
  exact List.find?_cons_of_pos (beq_self_eq_true q.source)

namespace Context

variable {ctx : Context} {ref : ColumnRef}

/-- A column of a row in reach has a name. -/
lemma columnName_of_column? {scope : Scope} {column : Column}
    (hscope : ctx.scope? ref.source = some scope)
    (hcolumn : scope.table.column? ref.column = some column) :
    ctx.columnName ref =
      .ok ⟨if ctx.qualify then some scope.table.name else none, column.name, ref.source⟩ := by
  rw [columnName, hscope]
  simp only [Table.resolve, hcolumn]
  rfl

/-- A column is found in a row that can be read, or it is not found at all. -/
lemma columnName_cases (ctx : Context) (ref : ColumnRef) :
    (∃ scope column, ctx.scope? ref.source = some scope ∧
      scope.table.column? ref.column = some column) ∨
    ∃ member table, ctx.columnName ref = .error (.unresolvableMember member table) := by
  unfold columnName
  cases hscope : ctx.scope? ref.source with
  | none => exact .inr ⟨_, _, rfl⟩
  | some scope =>
    cases hcolumn : scope.table.column? ref.column with
    | none =>
      simp only [Table.resolve, hcolumn]
      exact .inr ⟨_, _, rfl⟩
    | some column => exact .inl ⟨scope, column, rfl, hcolumn⟩

/-- The name of a column in reach is that of a column of the table of the row. -/
lemma columnName_eq_ok {c : ColumnName} (h : ctx.columnName ref = .ok c) :
    ∃ scope column, ctx.scope? ref.source = some scope ∧
      scope.table.column? ref.column = some column ∧
        c = ⟨if ctx.qualify then some scope.table.name else none, column.name, ref.source⟩ := by
  obtain ⟨scope, column, hscope, hcolumn⟩ | ⟨member, table, herr⟩ := ctx.columnName_cases ref
  · cases (columnName_of_column? hscope hcolumn).symm.trans h
    exact ⟨scope, column, hscope, hcolumn, rfl⟩
  · cases herr.symm.trans h

/-- A column that has no name is not found. -/
lemma columnName_error {err : Error} (h : ctx.columnName ref = .error err) :
    ∃ member table, err = .unresolvableMember member table := by
  obtain ⟨scope, column, hscope, hcolumn⟩ | ⟨member, table, herr⟩ := ctx.columnName_cases ref
  · cases (columnName_of_column? hscope hcolumn).symm.trans h
  · cases herr.symm.trans h
    exact ⟨member, table, rfl⟩

end Context

/-- A column reference and the place where it stands. -/
structure Site where
  place : Context
  ref : ColumnRef

mutual

/-- The columns that an expression reads, and the places where. -/
def exprSites : Expr → Context → List Site
  | .value _, _ => []
  | .column ref, ctx => [⟨ctx, ref⟩]
  | .unary _ e, ctx | .cast e _ _, ctx | .inList e _, ctx => exprSites e ctx
  | .binary _ l r, ctx => exprSites l ctx ++ exprSites r ctx
  | .conditional test yes no, ctx =>
    exprSites test ctx ++ exprSites yes ctx ++ exprSites no ctx
  | .call _ args, ctx => listSites args ctx
  | .inSubquery e q, ctx =>
    exprSites e ctx ++
      if ctx.isCorrelated q && ctx.readsTableOf q then [] else querySites q (ctx.inside q)
  | .exists q condition, ctx =>
    if ctx.readsTableOf q then []
    else querySites q (ctx.enter q true) ++ optionSites condition (ctx.enter q true)

/-- The columns that several expressions read. -/
def listSites : List Expr → Context → List Site
  | [], _ => []
  | e :: es, ctx => exprSites e ctx ++ listSites es ctx

/-- The columns that an expression reads that may be absent. -/
def optionSites : Option Expr → Context → List Site
  | none, _ => []
  | some e, ctx => exprSites e ctx

/-- The columns that a query reads, in the place inside the query. -/
def querySites : Query → Context → List Site
  | q@{ predicate, .. }, ctx =>
    q.listedColumns.map (fun i => ⟨ctx, ⟨q.source, i⟩⟩) ++ optionSites predicate ctx

end

/-- A subquery in an expression, and the place where it stands. -/
inductive Subquery where
  /-- A value is looked for among the rows of a query. -/
  | membership (place : Context) (query : Query)
  /-- A query is asked for a row that satisfies its filter and perhaps a further condition. -/
  | existence (place : Context) (query : Query) (condition : Option Expr)

namespace Subquery

/-- The place where a subquery stands. -/
def place : Subquery → Context
  | membership place _ | existence place _ _ => place

/-- The query of a subquery. -/
def query : Subquery → Query
  | membership _ query | existence _ query _ => query

/-- Whether a row in reach comes from a table with the name of the subquery's own. -/
def sharesTable (s : Subquery) : Bool := s.place.readsTableOf s.query

/-- Whether a subquery may not stand in its place. -/
def isRefused : Subquery → Bool
  | membership place query => place.isCorrelated query && place.readsTableOf query
  | existence place query _ => place.readsTableOf query

/-- The error that a subquery may not stand in its place. -/
def refusal : Subquery → Error
  | membership _ query => .unsupportedExpression (.correlatedSubquery query.table.name)
  | existence _ query _ => .unsupportedExpression (.correlatedExists query.table.name)

end Subquery

mutual

/-- The subqueries of an expression, at any depth. -/
def exprSubqueries : Expr → Context → List Subquery
  | .value _, _ | .column _, _ => []
  | .unary _ e, ctx | .cast e _ _, ctx | .inList e _, ctx => exprSubqueries e ctx
  | .binary _ l r, ctx => exprSubqueries l ctx ++ exprSubqueries r ctx
  | .conditional test yes no, ctx =>
    exprSubqueries test ctx ++ exprSubqueries yes ctx ++ exprSubqueries no ctx
  | .call _ args, ctx => listSubqueries args ctx
  | .inSubquery e q, ctx =>
    exprSubqueries e ctx ++ .membership ctx q :: querySubqueries q (ctx.inside q)
  | .exists q condition, ctx =>
    .existence ctx q condition ::
      (querySubqueries q (ctx.enter q true) ++ optionSubqueries condition (ctx.enter q true))

/-- The subqueries of several expressions. -/
def listSubqueries : List Expr → Context → List Subquery
  | [], _ => []
  | e :: es, ctx => exprSubqueries e ctx ++ listSubqueries es ctx

/-- The subqueries of an expression that may be absent. -/
def optionSubqueries : Option Expr → Context → List Subquery
  | none, _ => []
  | some e, ctx => exprSubqueries e ctx

/-- The subqueries of the filter of a query, in the place inside the query. -/
def querySubqueries : Query → Context → List Subquery
  | { predicate, .. }, ctx => optionSubqueries predicate ctx

end

end Sql

end TableQuery
