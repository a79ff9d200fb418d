import TableQuery.Proofs.Rows.Existence
import TableQuery.Proofs.Rows.Sorting

/-!
# The last row

A terminal that reads the last row of a query sorts the rows in the reverse order and reads the
first of them.  That is a last row of the query: none of the rows of its table that satisfy its
filter, as the filter is written, follows it in the query's own order (`last_reads_end`).  There may
be several last rows where the sort keys do not tell rows apart; the statement returns one of them.

A page is never read from its end, since in the reverse order it would have other rows
(`Query.compile_last_paged`).
-/

namespace TableQuery

/-- The sort keys of the order that the rows of a query are in: its own or, where it has none, the
primary key. -/
def Query.ownKeys (q : Query) : List SortKey :=
  if q.orderings.isEmpty then (q.table.primaryKeyIndex?.map fun i => ⟨i, true⟩).toList
  else q.orderings

section Keys

variable {q : Query} {keys : List SortKey}

/-- A terminal that reads the last row neither counts rows nor asks for any. -/
lemma Terminal.of_isLast {t : Terminal} (h : t.isLast = true) :
    t.isCount = false ∧ t ≠ .any ∧ t.implicitTake = some 1 := by
  cases t with
  | last => exact ⟨rfl, nofun, rfl⟩
  | lastOrDefault => exact ⟨rfl, nofun, rfl⟩
  | _ => cases h

/-- The last row is read by the query's own keys turned round, and only if there are any. -/
lemma Query.sortKeys_last (hlast : q.terminal.isLast = true) (hpaged : q.isPaged = false) :
    q.sortKeys = .ok keys ↔ q.ownKeys ≠ [] ∧ keys = q.ownKeys.map SortKey.reverse := by
  obtain ⟨hcount, hany, -⟩ := Terminal.of_isLast hlast
  have hany : (q.terminal == .any && q.skip.isNone) = false := by simp [hany]
  unfold sortKeys ownKeys
  rw [hcount, hany, hlast, hpaged, Bool.or_false, if_neg Bool.false_ne_true, Bool.and_false,
    if_neg Bool.false_ne_true, Bool.or_true, Bool.and_true]
  dsimp only
  rw [if_pos rfl]
  cases horderings : q.orderings with
  | cons k ks => simp [eq_comm]
  | nil =>
    cases q.table.primaryKeyIndex? with
    | none => simp
    | some i => simp [eq_comm]

/-- The query's own keys are keys of its table's columns if its orderings are. -/
lemma Query.column_of_ownKeys
    (horderings : ∀ k ∈ q.orderings, (q.table.column? k.column).isSome = true) :
    ∀ k ∈ q.ownKeys, (q.table.column? k.column).isSome = true := by
  unfold ownKeys
  split
  · intro k hk
    obtain ⟨i, hi, rfl⟩ : ∃ i, q.table.primaryKeyIndex? = some i ∧ ⟨i, true⟩ = k := by
      simpa using hk
    exact Table.column_of_primaryKeyIndex? hi
  · exact horderings

end Keys

namespace Sql

open Std

variable {V : Type} {server : Server V} {d : Dialect} {q : Query} {output : Output}
  {filters : List Cond} {order : List OrderTerm} {st : Statement}

/-- The last row of a page is not read. -/
lemma Query.compile_last_paged (hlast : q.terminal.isLast = true) (hpaged : q.isPaged = true) :
    q.compile d = .error (.unsupportedExpression (.lastOverPage q.terminal)) := by
  obtain ⟨hcount, hany, -⟩ := Terminal.of_isLast hlast
  have hany : (q.terminal == .any && q.skip.isNone) = false := by simp [hany]
  have hkeys : q.sortKeys = .error (.unsupportedExpression (.lastOverPage q.terminal)) := by
    rw [Query.sortKeys, hcount, hany, hlast, hpaged]
    rfl
  have hselect : (Select.of (Context.top d q) q (queryFilter q (Context.top d q))).result =
      .error (.unsupportedExpression (.lastOverPage q.terminal)) := by
    rw [Select.of, hcount, Bool.false_and, if_neg Bool.false_ne_true, Select.direct,
      Emit.result_bind, hkeys]
    rfl
  rw [Query.compile, Statement.of, ofQuery, Emit.result_bind, hselect]
  rfl

/-- The condition that the filter of a query is written as, if it has a filter. -/
def Query.where? (d : Dialect) (q : Query) : Except Error (Option (List Phrase)) :=
  match q.predicate with
  | none => .ok none
  | some p => (formsOf p (Context.top d q)).condition.result.map fun c => some (c.phrases d)

/-- The rows of the table of a query on which a condition holds. -/
def Server.satisfying (server : Server V) (q : Query) (condition : Option (List Phrase)) :
    List (List V) :=
  let table := server.contents q.table.name
  match condition with
  | none => table.rows
  | some c => table.rows.filter (server.holds [.column none q.table.name] c table.header)

/-- The conditions of a query are what its filter is written as. -/
lemma HasParts.where? (h : HasParts d q output filters order) :
    Query.where? d q = .ok (filterInside d filters) := by
  have hfilters := h.filters
  obtain ⟨table, source, predicate, orderings, projection, skip, take, distinct, terminal⟩ := q
  cases predicate with
  | none =>
    cases hfilters
    rfl
  | some p =>
    rw [queryFilter, optionCondition, presentConditions, Emit.result_bind] at hfilters
    obtain ⟨c, hc, hlist⟩ := ok_of_bind hfilters
    cases hlist
    simp only [Query.where?, hc, filterInside, furtherPhrases, List.append_nil]
    rfl

/-- The rows that a query keeps are the rows of its table that satisfy its filter. -/
lemma kept_eq_satisfying (server : Server V) :
    ((assembled d q output filters order).clauses d).kept server (server.contents q.table.name) =
      server.satisfying q (filterInside d filters) := by
  cases filters <;> rfl

/-- The rows are read in the order of the query's own keys turned round, from the first. -/
lemma last_rows (hlast : q.terminal.isLast = true) (hpaged : q.isPaged = false)
    (hdistinct : q.distinct = false)
    (htable : (server.contents q.table.name).header = q.table.columns.map Column.name)
    (h : q.compile d = .ok st) :
    ∃ output filters order r, HasParts d q output filters order ∧
      st.rows? d server = some r ∧ r.rows =
        (((server.satisfying q (filterInside d filters)).mergeSort
          (server.ordered ((SortKey.pairs q.ownKeys).map fun k => (k.1, !k.2)))).map
            (server.shown q)).take 1 := by
  obtain ⟨hcount, hany, htake⟩ := Terminal.of_isLast hlast
  obtain ⟨output, filters, order, l, hparts, hl, hrows⟩ := rows?_of_compile hcount htable h
  obtain ⟨keys, hkeys, -⟩ := hparts.order
  obtain ⟨hne, rfl⟩ := (Query.sortKeys_last hlast hpaged).mp hkeys
  obtain ⟨header, hl'⟩ := hparts.arranged server hcount hany hdistinct hkeys htable
  -- The rows that are read are those of the arranged table, of which there is one reading.
  cases hl.symm.trans hl'
  obtain ⟨hskip, hlimit⟩ : q.skip = none ∧ q.effectiveTake = some 1 := by
    obtain ⟨hskip, hnone⟩ : q.skip = none ∧ q.take = none := by simpa [Query.isPaged] using hpaged
    exact ⟨hskip, by rw [Query.effectiveTake, hnone, htake]⟩
  refine ⟨output, filters, order, _, hparts, hrows, ?_⟩
  have hsome : (q.ownKeys.map SortKey.reverse).isEmpty = false := by
    rw [List.isEmpty_map, List.isEmpty_eq_false_iff]
    exact hne
  rw [← kept_eq_satisfying, hskip, hlimit, Server.arranged, hsome, if_neg Bool.false_ne_true,
    ← SortKey.pairs_reverse]
  rfl

/-- The first of some rows in the reverse order, as it is shown. -/
lemma first_reversed (server : Server V) [TransCmp server.compare] (keys : List (Nat × Bool))
    (rows : List (List V)) (f : List V → List V) :
    ((rows.mergeSort (server.ordered (keys.map fun k => (k.1, !k.2)))).map f).take 1 = [] ∧
        rows = [] ∨
      ∃ row, server.IsLast keys rows row ∧
        ((rows.mergeSort (server.ordered (keys.map fun k => (k.1, !k.2)))).map f).take 1 =
          [f row] := by
  have hperm := List.mergeSort_perm rows (server.ordered (keys.map fun k => (k.1, !k.2)))
  cases hsorted : rows.mergeSort (server.ordered (keys.map fun k => (k.1, !k.2))) with
  | nil =>
    rw [hsorted] at hperm
    exact .inl ⟨rfl, hperm.symm.eq_nil⟩
  -- The head of the reversed order is followed by no row, in whatever way the sort breaks ties.
  | cons row rest =>
    refine .inr ⟨row, Server.isLast_of_head ?_, rfl⟩
    rw [hsorted]
    rfl

/-- Where some keys have the names of columns, their columns exist, and so the keys have names when
they are turned round. -/
lemma exists_reversed {keys : List SortKey}
    (h : ∀ k ∈ keys, (q.table.column? k.column).isSome = true) :
    ∃ order, (keys.map SortKey.reverse).mapM (OrderTerm.of (Context.top d q) q) = .ok order := by
  apply exists_mapM_ok
  rw [List.forall_mem_map]
  intro k hk
  obtain ⟨c, hc⟩ := columnName_exists (d := d) (h k hk)
  have hcolumn : k.reverse.column = k.column := rfl
  rw [OrderTerm.of, hcolumn, hc]
  exact ⟨_, rfl⟩

/-- The last row of a query can be read if the query can be read as a sequence and its rows have an
order. -/
lemma HasParts.last (hlast : q.terminal.isLast = true) (hpaged : q.isPaged = false)
    (hne : q.ownKeys ≠ []) (h : HasParts d (q.closed .sequence) output filters order) :
    ∃ order', HasParts d q output filters order' := by
  have hskip : q.skip = none := by
    have hnone : q.skip = none ∧ q.take = none := by simpa [Query.isPaged] using hpaged
    exact hnone.1
  obtain ⟨keys, hkeys, horder⟩ := h.order
  have hown : (q.closed .sequence).sortKeys = .ok q.orderings := by
    have hskip : (q.closed .sequence).skip = none := hskip
    rw [Query.sortKeys, hskip]
    simp [Query.closed, Terminal.isCount, Terminal.isLast]
  cases hown.symm.trans hkeys
  have hcolumns : ∀ k ∈ q.orderings, (q.table.column? k.column).isSome = true := by
    intro k hk
    obtain ⟨term, hterm⟩ := ok_of_mapM_ok horder k hk
    obtain ⟨c, hc, -⟩ := ok_of_bind hterm
    obtain ⟨scope, column, hscope, hcolumn, -⟩ := Context.columnName_eq_ok hc
    cases (scope?_top rfl).symm.trans hscope
    exact Option.isSome_iff_exists.mpr ⟨column, hcolumn⟩
  obtain ⟨order', horder'⟩ := exists_reversed (d := d) (Query.column_of_ownKeys hcolumns)
  refine ⟨order', ?_, ?_, _, (Query.sortKeys_last hlast hpaged).mpr ⟨hne, rfl⟩, horder'⟩
  · obtain ⟨hcount, hany, -⟩ := Terminal.of_isLast hlast
    rw [← h.output, Output.of, hcount, if_neg Bool.false_ne_true, if_neg hany]
    rfl
  · obtain ⟨table, source, predicate, orderings, projection, skip, take, distinct, terminal⟩ := q
    exact h.filters

/-- A terminal that reads the last row of a query fails over a page.  Where there is no page and
equal rows count as often as they occur, it is compiled if the query is as a sequence and its rows
have an order.  Then its statement returns no row if no row of the table satisfies the condition
that the filter of the query is written as, and otherwise one row: a last one, as the query shows
it.  None of the rows that satisfy the condition follows it strictly in the order of the query's own
sort keys or, where it has none, of the primary key; and if the keys tell all rows apart, there is
no other last row. -/
theorem last_reads_end [TransCmp server.compare] (hlast : q.terminal.isLast = true)
    (htable : (server.contents q.table.name).header = q.table.columns.map Column.name) :
    (q.isPaged = true →
      q.compile d = .error (.unsupportedExpression (.lastOverPage q.terminal))) ∧
    (q.isPaged = false → q.distinct = false →
      (q.ownKeys ≠ [] → (∃ st, (q.closed .sequence).compile d = .ok st) →
        ∃ st, q.compile d = .ok st) ∧
      ∀ st, q.compile d = .ok st →
        ∃ condition r, Query.where? d q = .ok condition ∧ st.rows? d server = some r ∧
          (r.rows = [] ∧ server.satisfying q condition = [] ∨
            ∃ row, server.IsLast (SortKey.pairs q.ownKeys) (server.satisfying q condition) row ∧
              r.rows = [server.shown q row] ∧
              (server.Distinguishes (SortKey.pairs q.ownKeys) (server.satisfying q condition) →
                ∀ row', server.IsLast (SortKey.pairs q.ownKeys) (server.satisfying q condition)
                  row' → row' = row))) := by
  refine ⟨Query.compile_last_paged hlast, fun hpaged hdistinct => ⟨fun hne hseq => ?_, ?_⟩⟩
  · obtain ⟨st, hst⟩ := hseq
    obtain ⟨s, hs, -⟩ := Query.tree_of_compile hst
    obtain ⟨output, filters, order, hparts, -⟩ := (Query.tree_eq_ok rfl).mp hs
    -- The parts of the sequence but for its order, which needs keys.
    obtain ⟨order', hparts'⟩ := hparts.last hlast hpaged hne
    have hplain : (q.terminal.isCount && (q.isPaged || q.distinct)) = false := by
      rw [hpaged, hdistinct]
      exact Bool.and_false _
    obtain ⟨st', hst', -⟩ :=
      Query.compile_of_tree ((Query.tree_eq_ok hplain).mpr ⟨_, _, _, hparts', rfl⟩)
    exact ⟨st', hst'⟩
  · intro st hst
    obtain ⟨output, filters, order, r, hparts, hr, hrows⟩ :=
      last_rows hlast hpaged hdistinct htable hst
    refine ⟨filterInside d filters, r, hparts.where?, hr, ?_⟩
    rw [hrows]
    rcases first_reversed server (SortKey.pairs q.ownKeys)
      (server.satisfying q (filterInside d filters)) (server.shown q) with
      hnone | ⟨row, hrow, hshown⟩
    · exact .inl hnone
    · refine .inr ⟨row, hrow, hshown, ?_⟩
      intro hkeys row' hrow'
      exact hrow'.unique hkeys hrow

/-- A table of parcels. -/
def parcelTable : Table :=
  .of "parcels"
    [⟨"id", "Id", .int, false, true⟩, ⟨"weight", "Weight", .int, false, false⟩,
      ⟨"zone", "Zone", .int, false, false⟩] (by decide)

/-- A query for the zone of the last parcel by weight, and then by zone from the end, where the
weight is asked for again. -/
def parcelQuery : Query :=
  { Query.all parcelTable ⟨0⟩ with
    predicate := some (.binary .greaterThan (.column ⟨⟨0⟩, 1⟩) (.value (.int 1)))
    orderings := [⟨1, true⟩, ⟨2, false⟩, ⟨1, false⟩]
    projection := [2]
    terminal := .lastOrDefault }

/-- A server that has some parcels, and knows when one weighs more than a given number. -/
def parcelServer : Server Int where
  contents _ := ⟨["id", "weight", "zone"], [[1, 5, 3], [2, 7, 4], [3, 7, 2], [4, 1, 9]]⟩
  holds _ condition _ row :=
    match condition with
    | [.group [.column none "weight", .symbol ">", .value (.int n)]] => n.toInt < row.getD 1 0
    | _ => false
  same r s := r == s
  compare := Ord.compare
  number := Int.ofNat
  null := 0

/-- Of the two heaviest parcels the one in zone 2 is the last. -/
theorem last_reads_end_parcels :
    parcelQuery.terminal.isLast = true ∧
      (parcelServer.contents parcelQuery.table.name).header =
        parcelQuery.table.columns.map Column.name ∧
      parcelQuery.isPaged = false ∧ parcelQuery.distinct = false ∧
      ∃ st r, parcelQuery.compile .sqlServer = .ok st ∧ st.rows? .sqlServer parcelServer = some r ∧
        parcelServer.IsLast [(1, true), (2, false), (1, false)] [[1, 5, 3], [2, 7, 4], [3, 7, 2]]
          [3, 7, 2] ∧ r.rows = [[2]] := by
  have horder : TransCmp parcelServer.compare :=
    inferInstanceAs (TransCmp (compare : Int → Int → Ordering))
  obtain ⟨st, hst⟩ : ∃ st, parcelQuery.compile .sqlServer = .ok st := Query.exists_compile rfl
  have htable : (parcelServer.contents parcelQuery.table.name).header =
      parcelQuery.table.columns.map Column.name := rfl
  obtain ⟨condition, r, hcondition, hr, hrows⟩ := ((last_reads_end rfl htable).2 rfl rfl).2 st hst
  have hwhere : Query.where? .sqlServer parcelQuery =
      .ok (some [.group [.column none "weight", .symbol ">", .value (.int 1)]]) := by rfl
  cases hwhere.symm.trans hcondition
  have hkept : parcelServer.satisfying parcelQuery
      (some [.group [.column none "weight", .symbol ">", .value (.int 1)]]) =
        [[1, 5, 3], [2, 7, 4], [3, 7, 2]] := by rfl
  have hpairs : SortKey.pairs parcelQuery.ownKeys = [(1, true), (2, false), (1, false)] := rfl
  rw [hkept, hpairs] at hrows
  have hlast : parcelServer.IsLast [(1, true), (2, false), (1, false)]
      [[1, 5, 3], [2, 7, 4], [3, 7, 2]] [3, 7, 2] := by
    refine ⟨by decide, ?_⟩
    unfold Server.Precedes
    decide
  have hdistinguishes : parcelServer.Distinguishes [(1, true), (2, false), (1, false)]
      [[1, 5, 3], [2, 7, 4], [3, 7, 2]] := by
    unfold Server.Distinguishes
    decide
  obtain ⟨-, hnone⟩ | ⟨row, -, hshown, hunique⟩ := hrows
  · cases hnone
  · cases hunique hdistinguishes _ hlast
    exact ⟨rfl, rfl, rfl, rfl, st, r, hst, hr, hlast, hshown⟩

end Sql

end TableQuery
