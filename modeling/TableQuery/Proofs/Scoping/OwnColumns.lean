import Mathlib.Algebra.Group.Nat.Defs
import TableQuery.Proofs.Building.Result
import TableQuery.Proofs.Schema.Names
import TableQuery.Proofs.Scoping.Misses

/-!
# Columns of the own row

When a query is built, the columns of its own row are checked that its filters refer to, at any
depth (`Expr.Filters`).  When it is compiled, each column is looked up where it stands, by the rows
around that place.  The check covers all that is looked up for the own row: subqueries have rows of
other identities, so that the own row stays in reach inside them, and what they list themselves are
columns of their own tables (`exprSites_own`).  So if a column is not found, then the filter refers
to a row of another query (`own_columns_found`).
-/

namespace TableQuery

mutual

/-- The subqueries of an expression, at any depth. -/
def Expr.queries : Expr → List Query
  | .value _ | .column _ => []
  | .unary _ e | .cast e _ _ | .inList e _ => e.queries
  | .binary _ l r => l.queries ++ r.queries
  | .conditional test yes no => test.queries ++ yes.queries ++ no.queries
  | .call _ args => listQueries args
  | .inSubquery e q => e.queries ++ q :: q.queries
  | .exists q condition => q :: (q.queries ++ optionQueries condition)

/-- The subqueries of several expressions. -/
def listQueries : List Expr → List Query
  | [] => []
  | e :: es => e.queries ++ listQueries es

/-- The subqueries of an expression that may be absent. -/
def optionQueries : Option Expr → List Query
  | none => []
  | some e => e.queries

/-- The subqueries in the filter of a query. -/
def Query.queries : Query → List Query
  | { predicate, .. } => optionQueries predicate

end

/-- The columns that a query may return or sort by are columns of its table. -/
def Query.ListsOwn (q : Query) : Prop :=
  ∀ i ∈ q.listedColumns, (q.table.column? i).isSome = true

/-- Queries that have rows of another identity and list columns of their own tables. -/
def AllForeign (s : SourceId) (queries : List Query) : Prop :=
  ∀ n ∈ queries, n.source ≠ s ∧ n.ListsOwn

namespace Sql

variable {s : SourceId}

/-- Queries of two lists are foreign if those of each list are. -/
lemma allForeign_append {ms ns : List Query} :
    AllForeign s (ms ++ ns) ↔ AllForeign s ms ∧ AllForeign s ns :=
  List.forall_mem_append

/-- Queries are foreign if the first one and the others are. -/
lemma allForeign_cons {n : Query} {ns : List Query} :
    AllForeign s (n :: ns) ↔ (n.source ≠ s ∧ n.ListsOwn) ∧ AllForeign s ns :=
  List.forall_mem_cons

/-- A column reference in a place is resolved, or it is one of some leaves and stands where a row is
in reach as in another place. -/
def Kept (s : SourceId) (ctx : Context) (leaves : List Leaf) (site : Site) : Prop :=
  site.Resolves ∨ site.ref ∈ leaves.filterMap Leaf.column? ∧ site.place.scope? s = ctx.scope? s

section Places

variable {ctx : Context} {n : Query} {qualify : Bool} {us vs : List Leaf}

/-- What is kept among some leaves is kept among these and more after them. -/
lemma Kept.left {site : Site} (h : Kept s ctx us site) : Kept s ctx (us ++ vs) site := by
  refine h.imp_right fun h => ⟨?_, h.2⟩
  rw [List.filterMap_append]
  exact List.mem_append_left _ h.1

/-- What is kept among some leaves is kept among these and more before them. -/
lemma Kept.right {site : Site} (h : Kept s ctx vs site) : Kept s ctx (us ++ vs) site := by
  refine h.imp_right fun h => ⟨?_, h.2⟩
  rw [List.filterMap_append]
  exact List.mem_append_right _ h.1

/-- A row stays in reach inside a query whose row has another identity. -/
lemma scope?_enter (h : n.source ≠ s) : (ctx.enter n qualify).scope? s = ctx.scope? s := by
  have hother : ¬(n.source == s) = true := fun hsame => h (beq_iff_eq.mp hsame)
  exact List.find?_cons_of_neg hother

/-- What stands inside a query whose row has another identity stands where the row is in reach as
around the query. -/
lemma Kept.around {site : Site} (h : n.source ≠ s) (hsite : Kept s (ctx.enter n qualify) us site) :
    Kept s ctx us site :=
  hsite.imp_right fun hkept => ⟨hkept.1, hkept.2.trans (scope?_enter h)⟩

/-- The columns that a query lists are resolved directly inside it. -/
lemma resolves_listed (h : n.ListsOwn) {i : Nat} (hi : i ∈ n.listedColumns)
    (hrow : ctx.row = Scope.of n) : Site.Resolves ⟨ctx, n.source, i⟩ := by
  obtain ⟨column, hcolumn⟩ := Option.isSome_iff_exists.mp (h i hi)
  refine ⟨Scope.of n, column, ?_, hcolumn⟩
  show ctx.scopes.find? _ = _
  rw [Context.scopes, hrow]
  exact List.find?_cons_of_pos (beq_self_eq_true n.source)

end Places

mutual

/-- Where an expression reads a column that is not found, the column is one of the expression, and
the own row is in reach as around the expression. -/
theorem exprSites_own : (e : Expr) → (ctx : Context) → AllForeign s e.queries →
    ∀ site ∈ exprSites e ctx, Kept s ctx e.leaves site
  | .value _, _, _ => List.forall_mem_nil _
  | .column ref, ctx, _ => List.forall_mem_singleton.mpr (.inr ⟨List.mem_cons_self, rfl⟩)
  | .unary _ e, ctx, h | .cast e _ _, ctx, h | .inList e _, ctx, h => exprSites_own e ctx h
  | .binary _ l r, ctx, h => by
    obtain ⟨hl, hr⟩ := allForeign_append.mp h
    intro site hsite
    rcases List.mem_append.mp hsite with hsite | hsite
    · exact (exprSites_own l ctx hl site hsite).left
    · exact (exprSites_own r ctx hr site hsite).right
  | .conditional test yes no, ctx, h => by
    obtain ⟨hbranches, hn⟩ := allForeign_append.mp h
    obtain ⟨ht, hy⟩ := allForeign_append.mp hbranches
    intro site hsite
    rcases List.mem_append.mp hsite with hsite | hsite
    · rcases List.mem_append.mp hsite with hsite | hsite
      · exact (exprSites_own test ctx ht site hsite).left.left
      · exact (exprSites_own yes ctx hy site hsite).right.left
    · exact (exprSites_own no ctx hn site hsite).right
  | .call _ args, ctx, h => listSites_own args ctx h
  | .inSubquery e n, ctx, h => by
    obtain ⟨he, hn⟩ := allForeign_append.mp h
    obtain ⟨hne, hn⟩ := allForeign_cons.mp hn
    intro site hsite
    rcases List.mem_append.mp hsite with hsite | hsite
    · exact (exprSites_own e ctx he site hsite).left
    · split at hsite
      · cases hsite
      -- Inside, the query's own row is in front, and as the query is foreign the outer row keeps
      -- its reach.
      · exact ((querySites_own n (ctx.inside n) rfl hne.2 hn site hsite).around hne.1).right
  | .exists n condition, ctx, h => by
    obtain ⟨hne, hall⟩ := allForeign_cons.mp h
    obtain ⟨hn, hc⟩ := allForeign_append.mp hall
    intro site hsite
    rw [exprSites] at hsite
    split at hsite
    · cases hsite
    rcases List.mem_append.mp hsite with hsite | hsite
    · exact ((querySites_own n (ctx.enter n true) rfl hne.2 hn site hsite).around hne.1).left
    · exact ((optionSites_own condition (ctx.enter n true) hc site hsite).around hne.1).right

/-- Where several expressions read a column that is not found, it is one of theirs. -/
theorem listSites_own : (es : List Expr) → (ctx : Context) → AllForeign s (listQueries es) →
    ∀ site ∈ listSites es ctx, Kept s ctx (listLeaves es) site
  | [], _, _ => List.forall_mem_nil _
  | e :: es, ctx, h => by
    obtain ⟨he, hes⟩ := allForeign_append.mp h
    intro site hsite
    rcases List.mem_append.mp hsite with hsite | hsite
    · exact (exprSites_own e ctx he site hsite).left
    · exact (listSites_own es ctx hes site hsite).right

/-- The columns in an expression that may be absent are kept. -/
theorem optionSites_own : (o : Option Expr) → (ctx : Context) → AllForeign s (optionQueries o) →
    ∀ site ∈ optionSites o ctx, Kept s ctx (optionLeaves o) site
  | none, _, _ => List.forall_mem_nil _
  | some e, ctx, h => exprSites_own e ctx h

/-- Where a query reads a column that is not found, the column is one of its filter. -/
theorem querySites_own : (n : Query) → (ctx : Context) → ctx.row = Scope.of n → n.ListsOwn →
    AllForeign s n.queries → ∀ site ∈ querySites n ctx, Kept s ctx n.leaves site
  | ⟨table, source, predicate, orderings, projection, skip, take, distinct, terminal⟩, ctx, hrow,
      hlists, h => by
    intro site hsite
    rcases List.mem_append.mp hsite with hsite | hsite
    · obtain ⟨i, hi, rfl⟩ := List.mem_map.mp hsite
      exact .inl (resolves_listed hlists hi hrow)
    · exact optionSites_own predicate ctx h site hsite

end

end Sql

section Building

variable {t : Table} {s : SourceId} {ops : List Operation} {effects : List Effect} {q : Query}

/-- A number of rows is at most the largest that a constant can stand for. -/
lemma Expr.Counts.le {e : Expr} {n : Nat} (h : e.Counts n) : n ≤ 2 ^ 63 - 1 := by
  obtain ⟨i, -, hi⟩ := h.value
  have hlt := Int64.toInt_lt i
  omega

/-- A filter that an operation means can filter the rows. -/
lemma Operation.Means.filters {o : Operation} {x : Effect} {e : Expr} (h : o.Means t s x)
    (hx : x.filter? = some e) : e.Filters t s := by
  cases h with
  | filter he | closeFilter _ he =>
    cases hx
    exact he
  | _ => cases hx

/-- The columns and literals of a conjunction are those of its parts. -/
lemma optionLeaves_conjunction? (es : List Expr) :
    optionLeaves (conjunction? es) = es.flatMap Expr.leaves := by
  induction es using List.reverseRecOn with
  | nil => rfl
  | append_singleton es e ih =>
    rw [List.flatMap_append, List.flatMap_singleton, ← ih, conjunction?_append_singleton]
    cases conjunction? es <;> rfl

/-- The filter of a query that is built reads no column of the own row that does not exist, at any
depth. -/
lemma Query.leaves_of_build (h : (Query.all t s).build ops = .ok q) :
    ∀ ref ∈ q.leaves.filterMap Leaf.column?, ref.source = s →
      (t.column? ref.column).isSome = true := by
  obtain ⟨effects, hmeans, -, rfl⟩ := build_eq_ok.mp h
  intro ref href hown
  change ref ∈ (optionLeaves (conjunction? (effects.filterMap Effect.filter?))).filterMap _ at href
  rw [optionLeaves_conjunction?] at href
  obtain ⟨leaf, hleaf, hcolumn⟩ := List.mem_filterMap.mp href
  obtain ⟨e, he, hleaf⟩ := List.mem_flatMap.mp hleaf
  obtain ⟨o, x, ho, hfilter⟩ := exists_adding hmeans he
  exact (ho.filters hfilter).columns ref (List.mem_filterMap.mpr ⟨leaf, hleaf, hcolumn⟩) hown

/-- The numbers of rows that a query leaves out and reads are numbers that constants stand for. -/
lemma Query.limits_of_build (h : (Query.all t s).build ops = .ok q) :
    (∀ n ∈ q.skip, n ≤ 2 ^ 63 - 1) ∧ ∀ n ∈ q.take, n ≤ 2 ^ 63 - 1 := by
  obtain ⟨effects, hmeans, -, rfl⟩ := build_eq_ok.mp h
  constructor
  · intro n hn
    obtain ⟨o, x, ho, hxn⟩ := exists_adding hmeans (List.mem_of_getLast? hn)
    cases ho with
    | skip he =>
      cases hxn
      exact he.le
    | _ => cases hxn
  · intro n hn
    obtain ⟨o, x, ho, hxn⟩ := exists_adding hmeans (List.mem_of_getLast? hn)
    cases ho with
    | take he =>
      cases hxn
      exact he.le
    | _ => cases hxn

/-- A query that is built is one of its table, for the row that it was begun with. -/
lemma Query.row_of_build (h : (Query.all t s).build ops = .ok q) : q.table = t ∧ q.source = s := by
  obtain ⟨effects, -, -, rfl⟩ := build_eq_ok.mp h
  exact ⟨rfl, rfl⟩

/-- A query that is built lists columns of its own table. -/
lemma Query.listsOwn_of_build (h : (Query.all t s).build ops = .ok q) : q.ListsOwn := by
  obtain ⟨horderings, hprojection⟩ := Query.columns_of_build h
  refine List.forall_mem_append.mpr ⟨List.forall_mem_append.mpr ⟨hprojection, ?_⟩, ?_⟩
  · exact List.forall_mem_map.mpr horderings
  · intro i hi
    exact Table.column_of_primaryKeyIndex? (Option.mem_toList.mp hi)

end Building

namespace Sql

variable {t : Table} {s : SourceId} {ops : List Operation} {q : Query}

/-- Where a built query reads a column of its own row, the column is found, in subqueries too. -/
lemma resolves_of_build (hbuild : (Query.all t s).build ops = .ok q)
    (hforeign : AllForeign s q.queries) (d : Dialect) :
    ∀ site ∈ querySites q (Context.top d q), site.Resolves ∨
      site.ref ∈ q.leaves.filterMap Leaf.column? ∧ site.ref.source ≠ s := by
  obtain ⟨rfl, rfl⟩ := Query.row_of_build hbuild
  intro site hsite
  rcases querySites_own q (Context.top d q) rfl (Query.listsOwn_of_build hbuild) hforeign site
    hsite with hfound | ⟨hleaf, hplace⟩
  · exact .inl hfound
  by_cases hown : site.ref.source = q.source
  case neg => exact .inr ⟨hleaf, hown⟩
  have hcolumn := Query.leaves_of_build hbuild site.ref hleaf hown
  obtain ⟨column, hcolumn⟩ := Option.isSome_iff_exists.mp hcolumn
  have hrow : site.place.scope? site.ref.source = some (Scope.of q) := by
    rw [hown, hplace]
    exact List.find?_cons_of_pos (beq_self_eq_true q.source)
  exact .inl ⟨Scope.of q, column, hrow, hcolumn⟩

/-- Let a query be built over a table whose subqueries are built too and are about other rows.  Then
the columns that it sorts by and selects exist, the numbers of rows to leave out and to read are
representable, and wherever a column of its own row is read, at any depth, it is found.  So if the
query is not compiled because a column is not found, then its filter refers to another row. -/
theorem own_columns_found (hbuild : (Query.all t s).build ops = .ok q)
    (hnested : ∀ n ∈ q.queries, n.source ≠ s ∧
      ∃ inner, (Query.all n.table n.source).build inner = .ok n) :
    (∀ k ∈ q.orderings, (t.column? k.column).isSome = true) ∧
    (∀ i ∈ q.projection, (t.column? i).isSome = true) ∧
    (∀ n ∈ q.skip, n ≤ 2 ^ 63 - 1) ∧ (∀ n ∈ q.take, n ≤ 2 ^ 63 - 1) ∧
    ∀ d, (∀ site ∈ querySites q (Context.top d q), site.ref.source = s → site.Resolves) ∧
      ∀ err, q.compile d = .error err → err.IsMiss →
        ∃ e ∈ q.predicate, ∃ ref ∈ e.columns, ref.source ≠ s := by
  obtain ⟨htable, -⟩ := Query.row_of_build hbuild
  obtain ⟨horderings, hprojection⟩ := Query.columns_of_build hbuild
  obtain ⟨hskip, htake⟩ := Query.limits_of_build hbuild
  rw [htable] at horderings hprojection
  have hforeign : AllForeign s q.queries := by
    intro n hn
    obtain ⟨hne, inner, hinner⟩ := hnested n hn
    exact ⟨hne, Query.listsOwn_of_build hinner⟩
  refine ⟨horderings, hprojection, hskip, htake, fun d => ⟨?_, ?_⟩⟩
  · intro site hsite hown
    rcases resolves_of_build hbuild hforeign d site hsite with hfound | ⟨-, hother⟩
    · exact hfound
    · exact absurd hown hother
  · intro err herr hmiss
    obtain ⟨site, hsite, hlost⟩ := Query.misses herr hmiss
    rcases resolves_of_build hbuild hforeign d site hsite with hfound | ⟨hleaf, hother⟩
    · exact absurd hfound hlost
    -- The columns that the query itself lists are found, so the one that is not is in the filter.
    · obtain ⟨table, source, predicate, _⟩ := q
      cases predicate with
      | none => cases hleaf
      | some e => exact ⟨e, rfl, site.ref, hleaf, hother⟩

/-- A table of hives. -/
def hiveTable : Table :=
  .of "hives"
    [⟨"id", "Id", .int, false, true⟩, ⟨"weight", "Weight", .int, true, false⟩] (by decide)

/-- A table of the combs in hives. -/
def combTable : Table :=
  .of "combs"
    [⟨"id", "Id", .int, false, true⟩, ⟨"hive_id", "HiveId", .int, false, false⟩,
      ⟨"full", "Full", .bool, false, false⟩] (by decide)

/-- The query for full combs. -/
def fullCombs : Query :=
  { Query.all combTable ⟨1⟩ with predicate := some (.column ⟨⟨1⟩, 2⟩) }

/-- Whether a hive has a full comb, where the combs of the hive are compared by a column of a row
that no query has. -/
def strayCondition : Expr :=
  .exists fullCombs (some (.binary .and
    (.binary .equal (.column ⟨⟨1⟩, 1⟩) (.column ⟨⟨0⟩, 0⟩))
    (.binary .equal (.column ⟨⟨1⟩, 0⟩) (.column ⟨⟨9⟩, 0⟩))))

/-- The query for hives with a full comb, by weight. -/
def hiveQuery : Query :=
  { Query.all hiveTable ⟨0⟩ with predicate := some strayCondition, orderings := [⟨1, true⟩] }

/-- The column that is not found in the query for hives is one of another row. -/
theorem own_columns_found_hives :
    (Query.all hiveTable ⟨0⟩).build
        [⟨"Where", [strayCondition]⟩, ⟨"OrderBy", [.column ⟨⟨0⟩, 1⟩]⟩] = .ok hiveQuery ∧
      hiveQuery.queries = [fullCombs] ∧
      (Query.all combTable ⟨1⟩).build [⟨"Where", [.column ⟨⟨1⟩, 2⟩]⟩] = .ok fullCombs ∧
      ∃ err, hiveQuery.compile .sqlServer = .error err ∧ err.IsMiss ∧
        ∃ e ∈ hiveQuery.predicate, ∃ ref ∈ e.columns, ref.source ≠ ⟨0⟩ := by
  have hbuild : (Query.all hiveTable ⟨0⟩).build
      [⟨"Where", [strayCondition]⟩, ⟨"OrderBy", [.column ⟨⟨0⟩, 1⟩]⟩] = .ok hiveQuery := rfl
  have hinner : (Query.all combTable ⟨1⟩).build [⟨"Where", [.column ⟨⟨1⟩, 2⟩]⟩] = .ok fullCombs :=
    rfl
  have hnested : ∀ n ∈ hiveQuery.queries, n.source ≠ ⟨0⟩ ∧
      ∃ inner, (Query.all n.table n.source).build inner = .ok n :=
    List.forall_mem_singleton.mpr ⟨by decide, _, hinner⟩
  have herr : hiveQuery.compile .sqlServer =
      .error (.unresolvableMember (.outOfScope 0) "combs") := rfl
  have hmiss : (Error.unresolvableMember (.outOfScope 0) "combs").IsMiss := ⟨_, _, rfl⟩
  have hfound := (own_columns_found hbuild hnested).2.2.2.2 .sqlServer
  exact ⟨hbuild, rfl, hinner, _, herr, hmiss, hfound.2 _ herr hmiss⟩

end Sql

end TableQuery
