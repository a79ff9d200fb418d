import TableQuery.Proofs.Ordering.Memberships
import TableQuery.Proofs.Schema.Index
import TableQuery.Query.Build

/-!
# The ordering of compiled queries

The statement of a query for SQL Server obeys the rules of ordering just if three things hold
(`compile_obeys_ordering`).  Wherever rows are skipped, others are fetched.  Every query in which an
expression tests for membership is sorted only as a page.  And so is the query itself if it counts
its rows as those of another statement: a page always has a row limit, but distinct rows that are
not a page keep their orderings inside the parentheses and have none.
-/

namespace TableQuery.Sql

variable {ctx : Context} {q : Query} {P : Prop} {filter : Option (Emit Cond)} {st : Statement}

/-- The statement of a query fetches rows and is lawful inside just if the query fetches rows, and
sorts them where a page is counted, and its filter allows it. -/
lemma Select.of_allows (hd : ctx.dialect = .sqlServer) (hf : OptionAllows filter P) :
    (Select.of ctx q filter).Gives fun s _ =>
      (s.FetchesSome ∧ AllLawful s.nested ↔
        q.FetchesRows ∧ (q.countsPage = true → q.SortsPage) ∧ P) := by
  unfold Select.of
  split
  case isTrue hpage =>
    have hcounts : q.countsPage = true := hpage
    have hcount : q.terminal.isCount = true := (Bool.and_eq_true_iff.mp hpage).1
    refine (Select.direct_allows hd hf).bind ?_
    rintro rows _ ⟨hnested, hfetches, hsorts⟩
    have htake : ({ q with terminal := .sequence } : Query).effectiveTake = q.effectiveTake := by
      unfold Query.effectiveTake
      rw [Terminal.implicitTake_of_isCount hcount]
      rfl
    have hfetches : rows.FetchesSome ↔ q.FetchesRows := by
      rw [hfetches, Query.FetchesRows, htake]
      rfl
    have hsorts : rows.SortsLimited ↔ q.SortsPage := hsorts rfl
    refine .pure ?_
    have hnone : (Select.counting (countsBig ctx.dialect q.terminal) rows).FetchesSome := by
      intro skipped hlimit
      cases hlimit
    rw [and_iff_right hnone, Select.nested_eq]
    simp only [Select.counting, Source.nested, condsNested, List.append_nil, allLawful_cons,
      Select.Lawful, hfetches, hsorts, hnested, hcounts, forall_const]
    exact and_assoc.trans and_left_comm
  case isFalse hpage =>
    have hcounts : ¬ q.countsPage = true := hpage
    intro s hs
    obtain ⟨hnested, hfetches, -⟩ := Select.direct_allows hd hf s hs
    have hunneeded : q.countsPage = true → q.SortsPage := fun h => absurd h hcounts
    rw [hnested, hfetches, and_iff_right hunneeded]

/-- A query that is compiled has a tree, and the tree is lawful inside just if the query fetches
rows, and sorts them where a page is counted, and all its memberships sort their pages. -/
lemma Query.tree_allows (h : q.compile .sqlServer = .ok st) :
    ∃ s, (ofQuery .sqlServer q).result = .ok (.select s) ∧
      st.phrases? .sqlServer = some (s.phrases .sqlServer) ∧ s.Written (fun _ _ => True) [] ∧
      (s.FetchesSome ∧ AllLawful s.nested ↔
        q.FetchesRows ∧ (q.countsPage = true → q.SortsPage) ∧ AllSortPages q.memberships) := by
  obtain ⟨s, hs, ⟨hwritten, -⟩, hread⟩ := Query.phrases?_of (admits_true _) h
  refine ⟨s, hs, hread, hwritten, ?_⟩
  have hd : (Context.top .sqlServer q).dialect = .sqlServer := rfl
  have hof := Select.of_allows (q := q) hd (queryFilter_allows q (Context.top .sqlServer q) hd)
  have hgives : (ofQuery .sqlServer q).Gives fun f _ => ∀ s, f = .select s →
      (s.FetchesSome ∧ AllLawful s.nested ↔
        q.FetchesRows ∧ (q.countsPage = true → q.SortsPage) ∧ AllSortPages q.memberships) := by
    refine hof.bind fun s _ hs => .pure ?_
    rintro _ ⟨⟩
    exact hs
  exact hgives _ hs s rfl

/-- A query that is compiled for SQL Server obeys the rules of ordering in every statement of its
text just if it fetches rows where it skips some, is sorted only as a page if its rows are counted
in parentheses, and both is true of every query in which an expression tests for membership. -/
theorem compile_obeys_ordering (h : q.compile .sqlServer = .ok st) :
    ∃ ps, st.phrases? .sqlServer = some ps ∧
      (ObeysOrdering ps ↔
        q.FetchesRows ∧ (q.countsPage = true → q.SortsPage) ∧
          ∀ s ∈ q.memberships, s.SortsPage ∧ s.FetchesRows) := by
  obtain ⟨s, -, hread, hwritten, hallows⟩ := Query.tree_allows h
  exact ⟨_, hread, (Select.obeysOrdering_iff hwritten).trans hallows⟩

/-- A table of medals. -/
def medalTable : Table :=
  .of "medals" [⟨"id", "Id", .int, false, true⟩, ⟨"rank", "Rank", .int, false, false⟩] (by decide)

/-- The query for the medals that are among the first three. -/
def medalQuery : Query :=
  { Query.all medalTable ⟨0⟩ with
    predicate := some (.inSubquery (.column ⟨⟨0⟩, 0⟩)
      { Query.all medalTable ⟨1⟩ with
        orderings := [⟨1, true⟩]
        projection := [0]
        take := some 3 })
    orderings := [⟨1, false⟩] }

/-- The first three medals are a page, so they may be sorted. -/
theorem compile_obeys_ordering_medals :
    ∃ st ps, medalQuery.compile .sqlServer = .ok st ∧ st.phrases? .sqlServer = some ps ∧
      ObeysOrdering ps := by
  obtain ⟨st, hst⟩ : ∃ st, medalQuery.compile .sqlServer = .ok st := Query.exists_compile rfl
  obtain ⟨ps, hps, hobeys⟩ := compile_obeys_ordering hst
  have hfetches : medalQuery.FetchesRows := nofun
  have hcounts : medalQuery.countsPage = true → medalQuery.SortsPage := nofun
  refine ⟨st, ps, hst, hps, hobeys.mpr ⟨hfetches, hcounts, ?_⟩⟩
  exact List.forall_mem_singleton.mpr ⟨fun _ => rfl, nofun⟩

/-- Operations for the number of different medals, sorted by their ranks. -/
def medalOperations : List Operation :=
  [⟨"OrderBy", [.column ⟨⟨0⟩, 1⟩]⟩, ⟨"Distinct", []⟩, ⟨"Count", []⟩]

/-- The query that the operations on medals build. -/
def medalCount : Query :=
  { Query.all medalTable ⟨0⟩ with
    orderings := [⟨1, true⟩]
    distinct := true
    terminal := .count }

/-- The different medals are sorted inside the parentheses in which they are counted, without a row
limit. -/
theorem count_sorts_distinct :
    (Query.all medalTable ⟨0⟩).build medalOperations = .ok medalCount ∧
      ∃ st ps, medalCount.compile .sqlServer = .ok st ∧ st.phrases? .sqlServer = some ps ∧
        st.text =
          "SELECT COUNT(*) FROM (SELECT DISTINCT * FROM [medals] ORDER BY [rank] ASC) AS [t]" ∧
        ¬ ObeysOrdering ps := by
  obtain ⟨st, hst⟩ : ∃ st, medalCount.compile .sqlServer = .ok st := Query.exists_compile rfl
  obtain ⟨s, -, hread, hwritten, hallows⟩ := Query.tree_allows hst
  refine ⟨rfl, st, _, hst, hread, ?_, fun hobeys => ?_⟩
  · cases hst
    rfl
  · have hsorts : medalCount.SortsPage :=
      (hallows.mp ((Select.obeysOrdering_iff hwritten).mp hobeys)).2.1 rfl
    cases hsorts (List.cons_ne_nil _ _)

end TableQuery.Sql
