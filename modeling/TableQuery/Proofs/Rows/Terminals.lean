import TableQuery.Proofs.Rows.Server
import TableQuery.Proofs.Schema.Index
import TableQuery.Proofs.Statement

/-!
# Terminals and the sequence

A terminal that counts the rows of a query, or that reads the first one or two of them, agrees with
the rows that the query returns as a sequence (`terminals_reduce`).  The statement of the query with
the terminal reads the same source under the same conditions, in the same order.  What differs is
the window: a terminal that reads a few rows narrows the window of the query, in whichever place the
dialect writes the row limit; and a count goes over the rows of the query's own statement if these
are a page or distinct, and otherwise over the rows that satisfy the conditions.
-/

namespace TableQuery

/-- The query with another terminal. -/
def Query.closed (q : Query) (t : Terminal) : Query := { q with terminal := t }

/-- A terminal that counts brings no row limit. -/
lemma Terminal.implicitTake_of_isCount {t : Terminal} (h : t.isCount = true) :
    t.implicitTake = none := by
  cases t with
  | count => rfl
  | longCount => rfl
  | _ => cases h

namespace Sql

/-- The rows that a statement returns. -/
def Statement.rows? {V : Type} (d : Dialect) (server : Server V) (st : Statement) :
    Option (Relation V) :=
  (st.phrases? d).bind (Sql.rows? server)

section Windows

variable {α : Type} {d : Dialect} {take skip : Option Nat}

/-- The number of rows that a page has at most: where a dialect demands a number, one that is as
good as none. -/
def pageSize (d : Dialect) (take skip : Option Nat) : Option Nat :=
  match take, skip with
  | none, some _ => if d = .postgreSql then some 9223372036854775807 else none
  | take, _ => take

/-- The window of a page. -/
def Window.ofPage (d : Dialect) (take skip : Option Nat) : Window :=
  ⟨skip.getD 0, pageSize d take skip⟩

/-- The row limits of a statement give the window of the page. -/
lemma window_of_limits {s : Select} (htop : s.top = topOf d take skip)
    (hlimit : s.limit = Limit.of d take skip) :
    (s.top = none ∨ s.limit = .none) ∧ s.window = Window.ofPage d take skip := by
  unfold Select.window
  rw [htop, hlimit]
  cases d with
  | sqlServer =>
    cases skip with
    | none => cases take <;> exact ⟨.inr rfl, rfl⟩
    | some n => cases take <;> exact ⟨.inl rfl, rfl⟩
  | sqlite => cases take <;> cases skip <;> exact ⟨.inl rfl, rfl⟩
  | postgreSql => cases take <;> cases skip <;> exact ⟨.inl rfl, rfl⟩

/-- A page with a smaller limit has the first rows of the page. -/
lemma Window.of_narrowed {n : Nat} (hn : n ≤ 9223372036854775807) (rows : List α) :
    (Window.ofPage d (some (take.elim n (min · n))) skip).of rows =
      ((Window.ofPage d take skip).of rows).take n := by
  have htake : ∀ m, (rows.drop (skip.getD 0)).take (min m n) =
      ((rows.drop (skip.getD 0)).take m).take n := by
    intro m
    rw [List.take_take, Nat.min_comm]
  cases take with
  | some m => exact htake m
  | none =>
    cases skip with
    | none => rfl
    | some k =>
      unfold Window.ofPage pageSize
      dsimp only
      -- A dialect that demands a number has the largest one here, which the limit narrows as well.
      split
      · have hmin := htake 9223372036854775807
        rw [Nat.min_eq_right hn] at hmin
        exact hmin
      · rfl

end Windows

section Trees

variable {ctx : Context} {d : Dialect} {q : Query}

/-- The parts that the statement of a query is made of: what it returns, its conditions, and its
sort keys. -/
structure HasParts (d : Dialect) (q : Query) (output : Output) (filters : List Cond)
    (order : List OrderTerm) : Prop where
  output : Output.of (Context.top d q) q = .ok output
  filters : (presentConditions [queryFilter q (Context.top d q)]).result = .ok filters
  order : ∃ keys, q.sortKeys = .ok keys ∧ keys.mapM (OrderTerm.of (Context.top d q) q) = .ok order

/-- The statement of a query that is made of some parts, where the query is not counted by way of
another. -/
def assembled (d : Dialect) (q : Query) (output : Output) (filters : List Cond)
    (order : List OrderTerm) : Select where
  distinct := q.distinct && !q.terminal.isCount
  top := topOf d q.effectiveTake q.skip
  output
  source := .table q.table.name q.source
  filters
  order
  limit := Limit.of d q.effectiveTake q.skip

/-- The statement of a query that is not counted by way of another is made of its parts. -/
lemma Select.direct_eq_ok {s : Select} :
    (Select.direct (Context.top d q) q (queryFilter q (Context.top d q))).result = .ok s ↔
      ∃ output filters order, HasParts d q output filters order ∧
        s = assembled d q output filters order := by
  have hresult : (Select.direct (Context.top d q) q (queryFilter q (Context.top d q))).result = (do
      let keys ← q.sortKeys
      let output ← Output.of (Context.top d q) q
      let filters ← (presentConditions [queryFilter q (Context.top d q)]).result
      let order ← keys.mapM (OrderTerm.of (Context.top d q) q)
      return assembled d q output filters order) := by
    simp only [Select.direct, Emit.result_bind]
    rfl
  rw [hresult]
  constructor
  case mp =>
    intro h
    obtain ⟨keys, hkeys, h⟩ := ok_of_bind h
    obtain ⟨output, houtput, h⟩ := ok_of_bind h
    obtain ⟨filters, hfilters, h⟩ := ok_of_bind h
    obtain ⟨order, horder, h⟩ := ok_of_bind h
    cases h
    exact ⟨output, filters, order, ⟨houtput, hfilters, keys, hkeys, horder⟩, rfl⟩
  case mpr =>
    rintro ⟨output, filters, order, ⟨houtput, hfilters, keys, hkeys, horder⟩, rfl⟩
    rw [hkeys, houtput, hfilters]
    simp only [Bind.bind, Except.bind, horder]
    rfl

/-- The tree of the statement of a query. -/
def Query.tree (d : Dialect) (q : Query) : Except Error Select :=
  (Select.of (Context.top d q) q (queryFilter q (Context.top d q))).result

/-- A query is compiled to its tree. -/
lemma ofQuery_result :
    (ofQuery d q).result = Query.tree d q >>= fun s => .ok (.select s) :=
  Emit.result_bind _ _

/-- The tree of a query is made of its parts, unless the rows of another statement are counted. -/
lemma Query.tree_eq_ok {s : Select}
    (h : (q.terminal.isCount && (q.isPaged || q.distinct)) = false) :
    Query.tree d q = .ok s ↔ ∃ output filters order, HasParts d q output filters order ∧
      s = assembled d q output filters order := by
  rw [Query.tree, Select.of, h, if_neg Bool.false_ne_true, Select.direct_eq_ok]

/-- The tree of a query that counts a page, or distinct rows, counts the rows of the sequence's own
statement. -/
lemma Query.tree_eq_counting {s : Select}
    (h : (q.terminal.isCount && (q.isPaged || q.distinct)) = true) :
    Query.tree d q = .ok s ↔ ∃ output filters order,
      HasParts d (q.closed .sequence) output filters order ∧
        s = Select.counting (countsBig d q.terminal)
          (assembled d (q.closed .sequence) output filters order) := by
  have hfilter : queryFilter (q.closed .sequence) (Context.top d (q.closed .sequence)) =
      queryFilter q (Context.top d q) := by
    cases q
    rfl
  have htree : Query.tree d q = ((Select.direct (Context.top d (q.closed .sequence))
      (q.closed .sequence) (queryFilter (q.closed .sequence)
        (Context.top d (q.closed .sequence)))).result >>= fun rows =>
          .ok (Select.counting (countsBig d q.terminal) rows)) := by
    rw [Query.tree, Select.of, h, if_pos rfl, Emit.result_bind, hfilter]
    rfl
  rw [htree]
  constructor
  case mp =>
    intro hs
    obtain ⟨rows, hrows, hs⟩ := ok_of_bind hs
    obtain ⟨output, filters, order, hparts, rfl⟩ := Select.direct_eq_ok.mp hrows
    cases hs
    exact ⟨output, filters, order, hparts, rfl⟩
  case mpr =>
    rintro ⟨output, filters, order, hparts, rfl⟩
    rw [Select.direct_eq_ok.mpr ⟨output, filters, order, hparts, rfl⟩]
    rfl

/-- A sequence is what remains of it with another terminal. -/
lemma Query.closed_sequence (hseq : q.terminal = .sequence) (t : Terminal) :
    (q.closed t).closed .sequence = q := by
  cases q
  cases hseq
  rfl

/-- A column of the row of a query that stands on its own is not qualified, and its name is that of
a column of the table. -/
lemma columnName_top {i : Nat} {c : ColumnName}
    (h : (Context.top d q).columnName ⟨q.source, i⟩ = .ok c) :
    c.qualifier = none ∧ c.name ∈ q.table.columns.map Column.name := by
  obtain ⟨scope, column, hscope, hcolumn, rfl⟩ := Context.columnName_eq_ok h
  cases (scope?_top rfl).symm.trans hscope
  exact ⟨rfl, List.mem_map_of_mem (Table.mem_columns hcolumn)⟩

/-- The columns that a statement returns by name are columns of the query's own row, and unless the
terminal counts, it returns something for each row. -/
lemma Output.of_listed {o : Output} (hcount : q.terminal.isCount = false)
    (h : Output.of ctx q = .ok o) :
    (∀ big, o ≠ .count big) ∧ o ≠ .columns [] ∧
      ∀ c ∈ o.names, ∃ i, ctx.columnName ⟨q.source, i⟩ = .ok c := by
  obtain ⟨hc, -⟩ | rfl | rfl | ⟨names, rfl, hne, hm⟩ := Output.of_cases h
  · rw [hcount] at hc
    cases hc
  · exact ⟨nofun, nofun, nofun⟩
  · exact ⟨nofun, nofun, nofun⟩
  · refine ⟨nofun, fun he => hne (Output.columns.inj he), ?_⟩
    intro c hc
    obtain ⟨i, -, hi⟩ := mem_of_mapM_ok hm c hc
    exact ⟨i, hi⟩

/-- The conditions of a statement are single phrases. -/
lemma isSingle_of_filtersWritten {ok : List From → ColumnName → Prop} {chain : List From}
    {cs : List Cond} (h : filtersWritten ok chain cs) : ∀ c ∈ cs, c.isSingle = true := by
  induction cs with
  | nil => exact List.forall_mem_nil _
  | cons c cs ih => exact List.forall_mem_cons.mpr ⟨h.1.1, ih h.2⟩

/-- A query that is compiled has a tree. -/
lemma Query.tree_of_compile {st : Statement} (h : q.compile d = .ok st) :
    ∃ s, Query.tree d q = .ok s ∧ (∀ c ∈ s.filters, c.isSingle = true) ∧
      st.phrases? d = some (s.phrases d) := by
  obtain ⟨s, hs, ⟨hwritten, -⟩, hread⟩ := Query.phrases?_of (admits_true _) h
  refine ⟨s, ?_, ?_, hread⟩
  · rw [ofQuery_result] at hs
    obtain ⟨t, ht, hs⟩ := ok_of_bind hs
    cases hs
    exact ht
  · obtain ⟨distinct, top, output, source, filters, order, limit⟩ := s
    exact isSingle_of_filtersWritten hwritten.2.2.1

/-- A query that has a tree is compiled to it. -/
lemma Query.compile_of_tree {s : Select} (h : Query.tree d q = .ok s) :
    ∃ st, q.compile d = .ok st ∧ (∀ c ∈ s.filters, c.isSingle = true) ∧
      st.phrases? d = some (s.phrases d) := by
  have hquery : (ofQuery d q).result = .ok (.select s) := by
    rw [ofQuery_result, h]
    rfl
  obtain ⟨st, hst⟩ : ∃ st, q.compile d = .ok st := by
    rw [Query.compile, Statement.of, hquery]
    exact ⟨_, rfl⟩
  obtain ⟨t, ht, hfilters, hread⟩ := Query.tree_of_compile hst
  rw [h] at ht
  cases ht
  exact ⟨st, hst, hfilters, hread⟩

end Trees

section Terminals

variable {V : Type} {server : Server V} {d : Dialect} {q : Query} {output : Output}
  {filters : List Cond} {order : List OrderTerm}

/-- The rows that the clauses of a statement list are known if the server has the table. -/
lemma HasParts.listed? (h : HasParts d q output filters order)
    (hcount : q.terminal.isCount = false)
    (htable : (server.contents q.table.name).header = q.table.columns.map Column.name) :
    countsRows output.phrases = false ∧
      ∃ l, ((assembled d q output filters order).clauses d).listed? server
        (server.contents q.table.name) = some l := by
  obtain ⟨hplain, hne, hcolumns⟩ := Output.of_listed hcount h.output
  obtain ⟨keys, -, horder⟩ := h.order
  refine ⟨countsRows_phrases hplain, Option.isSome_iff_exists.mp (listed?_isSome hplain hne ?_ ?_)⟩
  · intro c hc
    obtain ⟨i, hi⟩ := hcolumns c hc
    rw [htable]
    exact columnName_top hi
  · intro t ht
    obtain ⟨k, -, hk⟩ := OrderTerm.column_of horder t ht
    rw [htable]
    exact columnName_top hk

/-- The rows of a statement that lists the rows of a table are those in its window. -/
lemma rows?_listed {s : Select} {table : String} {row : SourceId} {l : Relation V}
    (hfilters : ∀ c ∈ s.filters, c.isSingle = true) (hlimits : s.top = none ∨ s.limit = .none)
    (hsource : s.source = .table table row) (hcount : countsRows s.output.phrases = false)
    (hl : (s.clauses d).listed? server (server.contents table) = some l) :
    rows? server (s.phrases d) = some { l with rows := s.window.of l.rows } := by
  have hcount : countsRows (s.clauses d).output = false := hcount
  rw [rows?_phrases hfilters hlimits, hsource, Source.relation?, Option.bind_some, Clauses.rows?,
    hcount, if_neg Bool.false_ne_true, hl]
  rfl

/-- The row of a statement that counts has the number of rows that satisfy its conditions. -/
lemma rows?_counted {s : Select} {relation : Relation V} {big : Bool}
    (hfilters : ∀ c ∈ s.filters, c.isSingle = true) (hlimits : s.top = none ∧ s.limit = .none)
    (hsource : s.source.relation? server d = some relation) (houtput : s.output = .count big)
    (horder : s.order = []) :
    rows? server (s.phrases d) =
      some ⟨[""], [[server.number ((s.clauses d).kept server relation).length]]⟩ := by
  have hcount : countsRows (s.clauses d).output = true := by
    rw [Select.clauses, houtput]
    cases big <;> rfl
  have horder : (s.clauses d).order.isNone = true := by
    rw [Select.clauses, horder]
    rfl
  have hwindow : (s.clauses d).window = ⟨0, none⟩ := by
    rw [Select.clauses, Select.window, hlimits.1, hlimits.2]
    rfl
  rw [rows?_phrases hfilters (.inl hlimits.1), hsource, Option.bind_some, Clauses.rows?, hcount,
    if_pos rfl, horder, if_pos rfl, hwindow]
  rfl

/-- A terminal that reads a few rows changes no part of the statement of a sequence. -/
lemma HasParts.reading (hseq : q.terminal = .sequence) {t : Terminal}
    (ht : t ∈ [Terminal.first, .firstOrDefault, .single, .singleOrDefault])
    (h : HasParts d q output filters order) :
    HasParts d (q.closed t) output filters order := by
  obtain ⟨table, source, predicate, orderings, projection, skip, take, distinct, terminal⟩ := q
  cases hseq
  obtain ⟨houtput, hfilters, hkeys⟩ := h
  simp only [List.mem_cons, List.not_mem_nil, or_false] at ht
  obtain rfl | rfl | rfl | rfl := ht <;> exact ⟨houtput, hfilters, hkeys⟩

/-- A terminal that counts returns the number of rows and drops the sort keys. -/
lemma HasParts.counting {t : Terminal} (ht : t.isCount = true)
    (h : HasParts d q output filters order) :
    HasParts d (q.closed t) (.count (countsBig d t)) filters [] := by
  obtain ⟨table, source, predicate, orderings, projection, skip, take, distinct, terminal⟩ := q
  refine ⟨if_pos ht, h.filters, [], ?_, rfl⟩
  refine if_pos ?_
  rw [Bool.or_eq_true]
  exact .inl ht

/-- The clauses of the statements of two queries list the same rows if the queries differ in what
becomes of the rows only, and neither is counted. -/
lemma listed?_assembled {t : Terminal} {relation : Relation V} (hcount : q.terminal.isCount = false)
    (ht : t.isCount = false) :
    ((assembled d (q.closed t) output filters order).clauses d).listed? server relation =
      ((assembled d q output filters order).clauses d).listed? server relation := by
  have hdistinct : ((assembled d (q.closed t) output filters order).clauses d).distinct =
      ((assembled d q output filters order).clauses d).distinct := by
    have ht : (q.closed t).terminal.isCount = false := ht
    simp only [Select.clauses, assembled, hcount, ht]
    rfl
  unfold Clauses.listed?
  rw [hdistinct]
  rfl

/-- The statement that lists the rows of a query returns those in the window of the query. -/
lemma rows?_assembled {l : Relation V} (hfilters : ∀ c ∈ filters, c.isSingle = true)
    (hcount : countsRows output.phrases = false)
    (hl : ((assembled d q output filters order).clauses d).listed? server
      (server.contents q.table.name) = some l) :
    rows? server ((assembled d q output filters order).phrases d) =
      some { l with rows := (Window.ofPage d q.effectiveTake q.skip).of l.rows } := by
  obtain ⟨hlimits, hwindow⟩ : ((assembled d q output filters order).top = none ∨
      (assembled d q output filters order).limit = .none) ∧
      (assembled d q output filters order).window = Window.ofPage d q.effectiveTake q.skip :=
    window_of_limits rfl rfl
  rw [rows?_listed hfilters hlimits rfl hcount hl, hwindow]

/-- The limit that a terminal brings narrows that of a sequence. -/
lemma effectiveTake_reading {t : Terminal} {n : Nat} (hn : t.implicitTake = some n) :
    (q.closed t).effectiveTake = some (q.take.elim n (min · n)) := by
  have hn : (q.closed t).terminal.implicitTake = some n := hn
  have htake : (q.closed t).take = q.take := rfl
  rw [Query.effectiveTake, hn, htake]
  cases q.take <;> rfl

/-- A terminal that reads a few rows returns the first rows of the sequence. -/
lemma reading_rows {t : Terminal} {n : Nat} {l : Relation V} (hseq : q.terminal = .sequence)
    (ht : t ∈ [Terminal.first, .firstOrDefault, .single, .singleOrDefault])
    (hn : t.implicitTake = some n) (hparts : HasParts d q output filters order)
    (hcount : countsRows output.phrases = false)
    (hl : ((assembled d q output filters order).clauses d).listed? server
      (server.contents q.table.name) = some l) :
    ∃ st, (q.closed t).compile d = .ok st ∧ st.rows? d server =
      some { l with rows := ((Window.ofPage d q.take q.skip).of l.rows).take n } := by
  have htcount : t.isCount = false ∧ n ≤ 9223372036854775807 := by
    simp only [List.mem_cons, List.not_mem_nil, or_false] at ht
    obtain rfl | rfl | rfl | rfl := ht <;> cases hn <;> exact ⟨rfl, by decide⟩
  have hqcount : q.terminal.isCount = false := by rw [hseq]; rfl
  have htree : Query.tree d (q.closed t) = .ok (assembled d (q.closed t) output filters order) := by
    have hcount : (q.closed t).terminal.isCount = false := htcount.1
    refine (Query.tree_eq_ok ?_).mpr ⟨output, filters, order, hparts.reading hseq ht, rfl⟩
    rw [hcount, Bool.false_and]
  obtain ⟨st, hst, hfilters, hread⟩ := Query.compile_of_tree htree
  have hfilters : ∀ c ∈ filters, c.isSingle = true := hfilters
  refine ⟨st, hst, ?_⟩
  have hl : ((assembled d (q.closed t) output filters order).clauses d).listed? server
      (server.contents (q.closed t).table.name) = some l := by
    rw [listed?_assembled hqcount htcount.1]
    exact hl
  rw [Statement.rows?, hread, Option.bind_some, rows?_assembled hfilters hcount hl,
    effectiveTake_reading hn, Window.of_narrowed htcount.2]
  rfl

/-- The statement of a query without a limit, and without one that its terminal brings, has none. -/
lemma assembled_unlimited (htake : q.effectiveTake = none) (hskip : q.skip = none) :
    (assembled d q output filters order).top = none ∧
      (assembled d q output filters order).limit = .none := by
  simp only [assembled, htake, hskip]
  cases d <;> exact ⟨rfl, rfl⟩

section Counting

variable {t : Terminal} {l : Relation V}

/-- A terminal that counts a page, or distinct rows, returns the number of rows that the statement
of the sequence returns. -/
lemma counting_page (hseq : q.terminal = .sequence) (ht : t.isCount = true)
    (hpage : (q.isPaged || q.distinct) = true) (hparts : HasParts d q output filters order)
    (hrows : rows? server ((assembled d q output filters order).phrases d) = some l) :
    ∃ st, (q.closed t).compile d = .ok st ∧
      st.rows? d server = some ⟨[""], [[server.number l.rows.length]]⟩ := by
  have hback := Query.closed_sequence hseq t
  have hpage : ((q.closed t).terminal.isCount &&
      ((q.closed t).isPaged || (q.closed t).distinct)) = true :=
    Bool.and_eq_true_iff.mpr ⟨ht, hpage⟩
  have htree := (Query.tree_eq_counting hpage).mpr ⟨output, filters, order, hback ▸ hparts, rfl⟩
  rw [hback] at htree
  obtain ⟨st, hst, hsingle, hread⟩ := Query.compile_of_tree htree
  refine ⟨st, hst, ?_⟩
  rw [Statement.rows?, hread, Option.bind_some, rows?_counted hsingle ⟨rfl, rfl⟩ hrows rfl rfl]
  rfl

/-- A terminal that counts all rows returns the number of rows that satisfy the conditions, and all
of these are listed by the sequence. -/
lemma counting_all (ht : t.isCount = true) (hpaged : q.isPaged = false)
    (hdistinct : q.distinct = false) (hparts : HasParts d q output filters order)
    (hl : ((assembled d q output filters order).clauses d).listed? server
      (server.contents q.table.name) = some l) :
    ∃ st, (q.closed t).compile d = .ok st ∧
      st.rows? d server = some ⟨[""], [[server.number l.rows.length]]⟩ := by
  obtain ⟨hskip, htake⟩ : q.skip = none ∧ q.take = none := by simpa [Query.isPaged] using hpaged
  have htree : Query.tree d (q.closed t) =
      .ok (assembled d (q.closed t) (.count (countsBig d t)) filters []) := by
    refine (Query.tree_eq_ok ?_).mpr ⟨_, filters, [], hparts.counting ht, rfl⟩
    have hclosed : ((q.closed t).isPaged || (q.closed t).distinct) = false := by
      simp [Query.isPaged, Query.closed, hskip, htake, hdistinct]
    rw [hclosed, Bool.and_false]
  obtain ⟨st, hst, hsingle, hread⟩ := Query.compile_of_tree htree
  refine ⟨st, hst, ?_⟩
  have hlimit : (q.closed t).effectiveTake = none := by
    have himplicit : (q.closed t).terminal.implicitTake = none :=
      Terminal.implicitTake_of_isCount ht
    have htake : (q.closed t).take = none := htake
    rw [Query.effectiveTake, htake, himplicit]
  have hlength := length_listed? (by simp [Select.clauses, assembled, hdistinct]) hl
  rw [Statement.rows?, hread, Option.bind_some,
    rows?_counted hsingle (assembled_unlimited hlimit hskip) rfl rfl rfl, hlength]
  rfl

/-- A terminal that counts returns the number of rows of the sequence. -/
lemma counting_rows (hseq : q.terminal = .sequence) (ht : t.isCount = true)
    (hparts : HasParts d q output filters order)
    (hl : ((assembled d q output filters order).clauses d).listed? server
      (server.contents q.table.name) = some l)
    (hrows : rows? server ((assembled d q output filters order).phrases d) =
      some { l with rows := (Window.ofPage d q.take q.skip).of l.rows }) :
    ∃ st, (q.closed t).compile d = .ok st ∧ st.rows? d server =
      some ⟨[""], [[server.number ((Window.ofPage d q.take q.skip).of l.rows).length]]⟩ := by
  cases hpage : q.isPaged || q.distinct with
  | true => exact counting_page hseq ht hpage hparts hrows
  | false =>
    obtain ⟨hpaged, hdistinct⟩ := Bool.or_eq_false_iff.mp hpage
    obtain ⟨hskip, htake⟩ : q.skip = none ∧ q.take = none := by simpa [Query.isPaged] using hpaged
    -- Without a page the window holds all rows.
    rw [hskip, htake]
    exact counting_all ht hpaged hdistinct hparts hl

end Counting

/-- Let a query be read as a sequence, and let the server have its table.  If the query is compiled,
its statement returns some rows; the query with a terminal that counts is compiled, too, and its
statement returns one row with the number of these rows; and so is the query with a terminal that
reads the first or the only row, whose statement returns the first of these rows, or the first two,
as far as there are any. -/
theorem terminals_reduce {st : Statement} (hseq : q.terminal = .sequence)
    (htable : (server.contents q.table.name).header = q.table.columns.map Column.name)
    (h : q.compile d = .ok st) :
    ∃ r, st.rows? d server = some r ∧
      (∀ t ∈ [Terminal.count, .longCount], ∃ st' r', (q.closed t).compile d = .ok st' ∧
        st'.rows? d server = some r' ∧ r'.rows = [[server.number r.rows.length]]) ∧
      (∀ t ∈ [Terminal.first, .firstOrDefault], ∃ st', (q.closed t).compile d = .ok st' ∧
        st'.rows? d server = some { r with rows := r.rows.take (min 1 r.rows.length) }) ∧
      (∀ t ∈ [Terminal.single, .singleOrDefault], ∃ st', (q.closed t).compile d = .ok st' ∧
        st'.rows? d server = some { r with rows := r.rows.take (min 2 r.rows.length) }) := by
  have hcount : q.terminal.isCount = false := by rw [hseq]; rfl
  obtain ⟨s, hs, hsingle, hread⟩ := Query.tree_of_compile h
  rw [Query.tree_eq_ok (by rw [hcount, Bool.false_and])] at hs
  obtain ⟨output, filters, order, hparts, rfl⟩ := hs
  obtain ⟨hplain, l, hl⟩ := hparts.listed? hcount htable
  have hsingle : ∀ c ∈ filters, c.isSingle = true := hsingle
  -- A sequence has no limit of its own, so its rows are all those of the page.
  have htake : q.effectiveTake = q.take := by
    rw [Query.effectiveTake, hseq]
    cases q.take <;> rfl
  have hrows := rows?_assembled hsingle hplain hl
  rw [htake] at hrows
  have hread : st.rows? d server =
      some { l with rows := (Window.ofPage d q.take q.skip).of l.rows } := by
    rw [Statement.rows?, hread, Option.bind_some, hrows]
  have hreading : ∀ t ∈ [Terminal.first, .firstOrDefault, .single, .singleOrDefault], ∀ n,
      t.implicitTake = some n → ∃ st', (q.closed t).compile d = .ok st' ∧
        st'.rows? d server = some { l with
          rows := ((Window.ofPage d q.take q.skip).of l.rows).take
            (min n ((Window.ofPage d q.take q.skip).of l.rows).length) } := by
    intro t ht n hn
    rw [← List.take_eq_take_min]
    exact reading_rows hseq ht hn hparts hplain hl
  refine ⟨_, hread, ?_, ?_, ?_⟩
  · intro t ht
    have ht : t.isCount = true := by
      simp only [List.mem_cons, List.not_mem_nil, or_false] at ht
      obtain rfl | rfl := ht <;> rfl
    obtain ⟨st', hst', hrows'⟩ := counting_rows hseq ht hparts hl hrows
    exact ⟨st', _, hst', hrows', rfl⟩
  · intro t ht
    refine hreading t (List.mem_append_left [Terminal.single, .singleOrDefault] ht) 1 ?_
    simp only [List.mem_cons, List.not_mem_nil, or_false] at ht
    obtain rfl | rfl := ht <;> rfl
  · intro t ht
    refine hreading t (List.mem_append_right [Terminal.first, .firstOrDefault] ht) 2 ?_
    simp only [List.mem_cons, List.not_mem_nil, or_false] at ht
    obtain rfl | rfl := ht <;> rfl

end Terminals

/-- A table of coins. -/
def coinTable : Table :=
  .of "coins"
    [⟨"id", "Id", .int, false, true⟩, ⟨"worth", "Worth", .int, false, false⟩] (by decide)

/-- A query for the worths of coins, each worth once and the greatest first, without the first of
them. -/
def coinQuery : Query :=
  { Query.all coinTable ⟨0⟩ with
    predicate := some (.binary .greaterThan (.column ⟨⟨0⟩, 1⟩) (.value (.int 1)))
    orderings := [⟨1, false⟩]
    projection := [1]
    skip := some 1
    distinct := true }

/-- A server that has some coins, and takes a condition for one on the worth of a coin. -/
def coinServer : Server Int where
  contents _ := ⟨["id", "worth"], [[1, 5], [2, 1], [3, 10], [4, 5], [5, 2]]⟩
  holds _ _ _ row := decide (1 < row.getD 1 0)
  same r s := r == s
  compare := Ord.compare
  number := Int.ofNat
  null := 0

/-- The rows of the query for the worths of coins, and what terminals make of them. -/
theorem terminals_reduce_coins :
    ∃ st, coinQuery.compile .sqlServer = .ok st ∧
      ∃ r, st.rows? .sqlServer coinServer = some r ∧
        (∀ t ∈ [Terminal.count, .longCount], ∃ st' r',
          (coinQuery.closed t).compile .sqlServer = .ok st' ∧
            st'.rows? .sqlServer coinServer = some r' ∧ r'.rows = [[(r.rows.length : Int)]]) ∧
        (∀ t ∈ [Terminal.first, .firstOrDefault], ∃ st',
          (coinQuery.closed t).compile .sqlServer = .ok st' ∧
            st'.rows? .sqlServer coinServer =
              some { r with rows := r.rows.take (min 1 r.rows.length) }) ∧
        (∀ t ∈ [Terminal.single, .singleOrDefault], ∃ st',
          (coinQuery.closed t).compile .sqlServer = .ok st' ∧
            st'.rows? .sqlServer coinServer =
              some { r with rows := r.rows.take (min 2 r.rows.length) }) := by
  obtain ⟨st, h⟩ : ∃ st, coinQuery.compile .sqlServer = .ok st := Query.exists_compile rfl
  exact ⟨st, h, terminals_reduce rfl rfl h⟩

end Sql

end TableQuery
