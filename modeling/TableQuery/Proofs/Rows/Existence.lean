import TableQuery.Proofs.Building.Result
import TableQuery.Proofs.Rows.Terminals

/-!
# Whether there is a row

The terminal that asks whether there is any row agrees with the rows that the query returns as a
sequence, except where equal rows count once and rows are left out (`any_has_row`).  Its statement
returns the same one for each row.  So where equal rows count once, these ones are one row, and to
leave out a row leaves none, however many different rows the sequence has.

The number of rows is all that matters, which does not depend on the order; and where equal rows
count once, there is a row if there was one before (`Clauses.listed?_eq_nil`).
-/

namespace TableQuery.Sql

section Repetitions

variable {α : Type} {r : α → α → Bool} {xs : List α}

/-- Leaving out repetitions leaves something if there is something. -/
lemma eraseDupsBy_eq_nil : xs.eraseDupsBy r = [] ↔ xs = [] := by
  cases xs with
  | nil => simp
  | cons x xs => simp [List.eraseDupsBy_cons]

/-- Where all are equal, one is left at most. -/
lemma length_eraseDupsBy_le_one (h : ∀ a ∈ xs, ∀ b ∈ xs, r a b = true) :
    (xs.eraseDupsBy r).length ≤ 1 := by
  cases xs with
  | nil => simp
  | cons x xs =>
    have hnone : (xs.filter fun b => decide (r b x = false)) = [] := by
      rw [List.filter_eq_nil_iff]
      intro b hb
      simp [h b (List.mem_cons_of_mem x hb) x List.mem_cons_self]
    rw [List.eraseDupsBy_cons, hnone, List.eraseDupsBy_nil]
    exact Nat.le_refl 1

/-- A window of rows is empty if all rows are left out or none is read. -/
lemma Window.of_eq_nil {w : Window} :
    w.of xs = [] ↔ xs.length ≤ w.skip ∨ w.take = some 0 := by
  unfold Window.of
  cases w.take with
  | none => simp
  | some n => cases n <;> simp

end Repetitions

section Listing

variable {V : Type} {server : Server V} {c : Clauses} {relation r : Relation V}

/-- As many rows are listed as satisfy the conditions, without repetitions of what is returned if
equal rows count once. -/
lemma Clauses.length_listed?_eq (h : c.listed? server relation = some r) :
    ∃ header shown, server.output? c.source relation.header c.output = some (header, shown) ∧
      r.rows.length =
        (let pairs := (c.kept server relation).map fun row => (row, shown row)
          if c.distinct then pairs.eraseDupsBy fun a b => server.same a.2 b.2
          else pairs).length := by
  unfold Clauses.listed? at h
  obtain ⟨⟨header, shown⟩, hshown, h⟩ := Option.bind_eq_some_iff.mp h
  obtain ⟨keys, -, h⟩ := Option.bind_eq_some_iff.mp h
  cases h
  refine ⟨header, shown, hshown, ?_⟩
  rw [List.length_map]
  split
  · rfl
  · rw [List.length_mergeSort]

/-- A statement lists a row if some row satisfies the conditions. -/
lemma Clauses.listed?_eq_nil (h : c.listed? server relation = some r) :
    r.rows = [] ↔ c.kept server relation = [] := by
  obtain ⟨header, shown, -, hlength⟩ := length_listed?_eq h
  rw [← List.length_eq_zero_iff, hlength, List.length_eq_zero_iff]
  dsimp only
  split
  · rw [eraseDupsBy_eq_nil, List.map_eq_nil_iff]
  · rw [List.map_eq_nil_iff]

/-- Where equal rows count once, a statement that returns the same for every row lists one row at
most. -/
lemma Clauses.length_listed?_le_one (hsame : ∀ row, server.same row row = true)
    (houtput : c.output = Output.one.phrases) (hdistinct : c.distinct = true)
    (h : c.listed? server relation = some r) : r.rows.length ≤ 1 := by
  obtain ⟨header, shown, hshown, hlength⟩ := length_listed?_eq h
  have hone : server.output? c.source relation.header Output.one.phrases =
      some ([""], fun _ => [server.number 1]) := by
    have hnumeral : (Phrase.word "1").natural? = some 1 := natural?_word 1
    simp only [Output.phrases, Server.output?, hnumeral]
    rfl
  rw [houtput, hone] at hshown
  cases hshown
  rw [hlength, hdistinct, if_pos rfl]
  refine length_eraseDupsBy_le_one fun a ha b hb => ?_
  obtain ⟨_, -, rfl⟩ := List.mem_map.mp ha
  obtain ⟨_, -, rfl⟩ := List.mem_map.mp hb
  exact hsame _

end Listing

section Any

variable {V : Type} {server : Server V} {d : Dialect} {q : Query} {output : Output}
  {filters : List Cond} {order : List OrderTerm}

/-- The names of columns that exist are found. -/
lemma columnName_exists {i : Nat} (h : (q.table.column? i).isSome = true) :
    ∃ c, (Context.top d q).columnName ⟨q.source, i⟩ = .ok c := by
  obtain ⟨column, hcolumn⟩ := Option.isSome_iff_exists.mp h
  exact ⟨_, Context.columnName_of_column? (scope?_top rfl) hcolumn⟩

/-- The terminal that asks for any row keeps the conditions of a sequence. -/
lemma HasParts.any (hseq : q.terminal = .sequence) (h : HasParts d q output filters order) :
    ∃ order', HasParts d (q.closed .any) .one filters order' := by
  obtain ⟨table, source, predicate, orderings, projection, skip, take, distinct, terminal⟩ := q
  cases hseq
  obtain ⟨-, hfilters, keys, hkeys, horder⟩ := h
  -- The rows are sorted only where some of them are left out.
  cases skip with
  | none => exact ⟨[], rfl, hfilters, [], rfl, rfl⟩
  | some n => exact ⟨order, rfl, hfilters, keys, hkeys, horder⟩

/-- Where the columns exist that a sequence selects, what it returns is known. -/
lemma exists_output (hseq : q.terminal = .sequence)
    (hprojection : ∀ i ∈ q.projection, (q.table.column? i).isSome = true) :
    ∃ output, Output.of (Context.top d q) q = .ok output := by
  obtain ⟨names, hnames⟩ := exists_mapM_ok fun i hi => columnName_exists (d := d) (hprojection i hi)
  have hcount : q.terminal.isCount = false := by rw [hseq]; rfl
  have hany : q.terminal ≠ .any := by rw [hseq]; decide
  rw [Output.of, hcount, if_neg Bool.false_ne_true, if_neg hany]
  split
  · exact ⟨_, rfl⟩
  · rw [hnames]
    exact ⟨_, rfl⟩

/-- Where the columns exist that a sequence selects and sorts by, it can be read if it can be asked
for any row. -/
lemma HasParts.of_any (hseq : q.terminal = .sequence)
    (horderings : ∀ k ∈ q.orderings, (q.table.column? k.column).isSome = true)
    (hprojection : ∀ i ∈ q.projection, (q.table.column? i).isSome = true)
    (h : HasParts d (q.closed .any) output filters order) :
    ∃ output' order', HasParts d q output' filters order' := by
  obtain ⟨output', houtput⟩ := exists_output (d := d) hseq hprojection
  obtain ⟨order', horder⟩ : ∃ order', q.orderings.mapM (OrderTerm.of (Context.top d q) q) =
      .ok order' := by
    refine exists_mapM_ok fun k hk => ?_
    obtain ⟨c, hc⟩ := columnName_exists (d := d) (horderings k hk)
    rw [OrderTerm.of, hc]
    exact ⟨_, rfl⟩
  obtain ⟨table, source, predicate, orderings, projection, skip, take, distinct, terminal⟩ := q
  cases hseq
  obtain ⟨-, hfilters, keys, hkeys, hterms⟩ := h
  cases skip with
  | some n => exact ⟨output', order, houtput, hfilters, keys, hkeys, hterms⟩
  | none =>
    refine ⟨output', order', houtput, hfilters, orderings, ?_, horder⟩
    simp [Query.sortKeys, Terminal.isCount, Terminal.isLast]

/-- A query whose columns exist is compiled as a sequence if it is compiled with the terminal that
asks for any row. -/
lemma compile_any_iff (hseq : q.terminal = .sequence)
    (horderings : ∀ k ∈ q.orderings, (q.table.column? k.column).isSome = true)
    (hprojection : ∀ i ∈ q.projection, (q.table.column? i).isSome = true) :
    (∃ st, (q.closed .any).compile d = .ok st) ↔ ∃ st, q.compile d = .ok st := by
  have hplain : (q.terminal.isCount && (q.isPaged || q.distinct)) = false := by rw [hseq]; rfl
  have hany : ((q.closed .any).terminal.isCount &&
    ((q.closed .any).isPaged || (q.closed .any).distinct)) = false := rfl
  constructor
  case mp =>
    rintro ⟨st, hst⟩
    obtain ⟨s, hs, -⟩ := Query.tree_of_compile hst
    obtain ⟨output, filters, order, hparts, -⟩ := (Query.tree_eq_ok hany).mp hs
    obtain ⟨output', order', hparts'⟩ := hparts.of_any hseq horderings hprojection
    obtain ⟨st', hst', -⟩ :=
      Query.compile_of_tree ((Query.tree_eq_ok hplain).mpr ⟨_, _, _, hparts', rfl⟩)
    exact ⟨st', hst'⟩
  case mpr =>
    rintro ⟨st, hst⟩
    obtain ⟨s, hs, -⟩ := Query.tree_of_compile hst
    obtain ⟨output, filters, order, hparts, -⟩ := (Query.tree_eq_ok hplain).mp hs
    obtain ⟨order', hparts'⟩ := hparts.any hseq
    obtain ⟨st', hst', -⟩ :=
      Query.compile_of_tree ((Query.tree_eq_ok hany).mpr ⟨_, _, _, hparts', rfl⟩)
    exact ⟨st', hst'⟩

/-- A page has no rows if all rows are left out or none is to be read. -/
lemma Window.ofPage_eq_nil {α : Type} {take skip : Option Nat} {rows : List α} :
    (Window.ofPage d take skip).of rows = [] ↔ rows.length ≤ skip.getD 0 ∨ take = some 0 := by
  have htake : pageSize d take skip = some 0 ↔ take = some 0 := by
    unfold pageSize
    split
    · split <;> simp
    · rfl
  rw [Window.of_eq_nil]
  exact or_congr_right htake

/-- The statement of a query that does not count returns a window of what its clauses list. -/
lemma rows?_of_compile {st : Statement} (hcount : q.terminal.isCount = false)
    (htable : (server.contents q.table.name).header = q.table.columns.map Column.name)
    (h : q.compile d = .ok st) :
    ∃ output filters order l, HasParts d q output filters order ∧
      ((assembled d q output filters order).clauses d).listed? server
        (server.contents q.table.name) = some l ∧
      st.rows? d server =
        some { l with rows := (Window.ofPage d q.effectiveTake q.skip).of l.rows } := by
  obtain ⟨s, hs, hsingle, hread⟩ := Query.tree_of_compile h
  rw [Query.tree_eq_ok (by rw [hcount, Bool.false_and])] at hs
  obtain ⟨output, filters, order, hparts, rfl⟩ := hs
  obtain ⟨hplain, l, hl⟩ := hparts.listed? hcount htable
  have hsingle : ∀ c ∈ filters, c.isSingle = true := hsingle
  refine ⟨output, filters, order, l, hparts, hl, ?_⟩
  rw [Statement.rows?, hread, Option.bind_some, rows?_assembled hsingle hplain hl]

/-- A query has its parts once. -/
lemma HasParts.unique {output' : Output} {filters' : List Cond} {order' : List OrderTerm}
    (h : HasParts d q output filters order) (h' : HasParts d q output' filters' order') :
    output' = output ∧ filters' = filters ∧ order' = order := by
  obtain ⟨houtput, hfilters, keys, hkeys, horder⟩ := h
  obtain ⟨houtput', hfilters', keys', hkeys', horder'⟩ := h'
  cases hkeys.symm.trans hkeys'
  exact ⟨Except.ok.inj (houtput'.symm.trans houtput), Except.ok.inj (hfilters'.symm.trans hfilters),
    Except.ok.inj (horder'.symm.trans horder)⟩

/-- As many rows are listed for the terminal that asks for any row as for the sequence, if equal
rows count more than once; in any case, one is listed for the one if one is for the other. -/
lemma length_listed?_any {order' : List OrderTerm} {l l' : Relation V}
    (hl : ((assembled d q output filters order).clauses d).listed? server
      (server.contents q.table.name) = some l)
    (hl' : ((assembled d (q.closed .any) .one filters order').clauses d).listed? server
      (server.contents q.table.name) = some l') :
    (q.distinct = false → l'.rows.length = l.rows.length) ∧ (l'.rows = [] ↔ l.rows = []) := by
  have hkept : ((assembled d (q.closed .any) .one filters order').clauses d).kept server
      (server.contents q.table.name) =
        ((assembled d q output filters order).clauses d).kept server
          (server.contents q.table.name) := rfl
  constructor
  · intro hdistinct
    have hplain : ((assembled d q output filters order).clauses d).distinct = false := by
      simp [Select.clauses, assembled, hdistinct]
    have hplain' : ((assembled d (q.closed .any) .one filters order').clauses d).distinct =
        false := by
      simp [Select.clauses, assembled, Query.closed, hdistinct]
    rw [length_listed? hplain' hl', length_listed? hplain hl, hkept]
  · rw [Clauses.listed?_eq_nil hl', Clauses.listed?_eq_nil hl, hkept]

/-- Where equal rows count once and rows are left out, the terminal that asks for any row finds
none. -/
lemma rows?_any_nil {st : Statement} (hsame : ∀ row, server.same row row = true)
    (htable : (server.contents q.table.name).header = q.table.columns.map Column.name)
    (hdistinct : q.distinct = true) (hskip : 0 < q.skip.getD 0)
    (h : (q.closed .any).compile d = .ok st) :
    ∃ r, st.rows? d server = some r ∧ r.rows = [] := by
  obtain ⟨output, filters, order, l, hparts, hl, hrows⟩ :=
    rows?_of_compile (q := q.closed .any) rfl htable h
  refine ⟨_, hrows, Window.ofPage_eq_nil.mpr (.inl ?_)⟩
  have houtput : output = .one := (Except.ok.inj hparts.output).symm
  have honce : ((assembled d (q.closed .any) output filters order).clauses d).distinct = true := by
    simp [Select.clauses, assembled, Query.closed, Terminal.isCount, hdistinct]
  have hone : l.rows.length ≤ 1 :=
    Clauses.length_listed?_le_one hsame (congrArg Output.phrases houtput) honce hl
  exact Nat.le_trans hone hskip

/-- Where equal rows count more than once or no rows are left out, the terminal that asks for any
row finds one if and only if the sequence has one. -/
lemma rows?_any_iff {st st' : Statement} {r r' : Relation V} (hseq : q.terminal = .sequence)
    (htable : (server.contents q.table.name).header = q.table.columns.map Column.name)
    (h : q.distinct = false ∨ q.skip.getD 0 = 0)
    (hst : q.compile d = .ok st) (hst' : (q.closed .any).compile d = .ok st')
    (hr : st.rows? d server = some r) (hr' : st'.rows? d server = some r') :
    r'.rows = [] ↔ r.rows = [] := by
  have hcount : q.terminal.isCount = false := by rw [hseq]; rfl
  obtain ⟨output, filters, order, l, hparts, hl, hrows⟩ := rows?_of_compile hcount htable hst
  obtain ⟨output', filters', order', l', hparts', hl', hrows'⟩ :=
    rows?_of_compile (q := q.closed .any) rfl htable hst'
  obtain ⟨order'', hany⟩ := hparts.any hseq
  obtain ⟨rfl, rfl, rfl⟩ := hany.unique hparts'
  obtain ⟨hlength, hempty⟩ := length_listed?_any hl hl'
  have htake : q.effectiveTake = q.take := by
    rw [Query.effectiveTake, hseq]
    cases q.take <;> rfl
  have hone : (q.closed .any).effectiveTake = some (q.take.elim 1 (min · 1)) :=
    effectiveTake_reading rfl
  have hzero : some (q.take.elim 1 (min · 1)) = some 0 ↔ q.take = some 0 := by
    cases q.take <;> simp
  have hpage : l'.rows.length ≤ q.skip.getD 0 ↔ l.rows.length ≤ q.skip.getD 0 := by
    obtain hdistinct | hskip := h
    · rw [hlength hdistinct]
    · rw [hskip, Nat.le_zero, Nat.le_zero, List.length_eq_zero_iff, List.length_eq_zero_iff, hempty]
  rw [hr, htake] at hrows
  rw [hr', hone] at hrows'
  rw [Option.some.inj hrows, Option.some.inj hrows', Window.ofPage_eq_nil, Window.ofPage_eq_nil,
    hzero]
  exact or_congr_left hpage

/-- Let a query be built as a sequence, and let the server have its table and take equal rows for
equal.  The query is compiled with the terminal that asks for any row if and only if it is compiled
as it is.  Of the two statements, one returns a row if and only if the other does, unless equal rows
count once and rows are left out.  In that case the terminal never finds a row. -/
theorem any_has_row {t : Table} {source : SourceId} {ops : List Operation}
    (hbuild : (Query.all t source).build ops = .ok q) (hseq : q.terminal = .sequence)
    (htable : (server.contents q.table.name).header = q.table.columns.map Column.name)
    (hsame : ∀ row, server.same row row = true) :
    ((∃ st, (q.closed .any).compile d = .ok st) ↔ ∃ st, q.compile d = .ok st) ∧
    ∀ st st', q.compile d = .ok st → (q.closed .any).compile d = .ok st' →
      ∃ r r', st.rows? d server = some r ∧ st'.rows? d server = some r' ∧
        (q.distinct = false ∨ q.skip.getD 0 = 0 → (r'.rows ≠ [] ↔ r.rows ≠ [])) ∧
        (q.distinct = true → 0 < q.skip.getD 0 → r'.rows = []) := by
  obtain ⟨horderings, hprojection⟩ := Query.columns_of_build hbuild
  refine ⟨compile_any_iff hseq horderings hprojection, fun st st' hst hst' => ?_⟩
  have hcount : q.terminal.isCount = false := by rw [hseq]; rfl
  obtain ⟨_, _, _, _, -, -, hr⟩ := rows?_of_compile hcount htable hst
  obtain ⟨_, _, _, _, -, -, hr'⟩ := rows?_of_compile (q := q.closed .any) rfl htable hst'
  refine ⟨_, _, hr, hr', fun h => ?_, fun hdistinct hskip => ?_⟩
  · exact not_congr (rows?_any_iff hseq htable h hst hst' hr hr')
  · obtain ⟨r, hnone, hnil⟩ := rows?_any_nil hsame htable hdistinct hskip hst'
    cases hr'.symm.trans hnone
    exact hnil

end Any

/-- A table of events. -/
def eventTable : Table :=
  .of "Events" [⟨"Name", "name", .text, false, false⟩] (by decide)

/-- The operations for the different events by name, without the first. -/
def eventOperations : List Operation :=
  [⟨"OrderBy", [.column ⟨⟨0⟩, 0⟩]⟩, ⟨"Distinct", []⟩, ⟨"Skip", [.value (.int 1)]⟩]

/-- The query for the different events by name, without the first. -/
def eventQuery : Query :=
  { Query.all eventTable ⟨0⟩ with
    orderings := [⟨0, true⟩]
    skip := some 1
    distinct := true }

/-- The operations for all events by name, without the first. -/
def laterOperations : List Operation :=
  [⟨"OrderBy", [.column ⟨⟨0⟩, 0⟩]⟩, ⟨"Skip", [.value (.int 1)]⟩]

/-- The query for all events by name, without the first. -/
def laterEvents : Query := { eventQuery with distinct := false }

/-- A server that has two events. -/
def eventServer : Server Nat where
  contents _ := ⟨["Name"], [[1], [2]]⟩
  holds _ _ _ _ := true
  same r s := r == s
  compare := Ord.compare
  number := id
  null := 0

/-- Of two events, different or not, one is left without the first. -/
lemma eventQuery_has_row (distinct : Bool) {st : Statement} {r : Relation Nat}
    (hst : { eventQuery with distinct }.compile .sqlite = .ok st)
    (hr : st.rows? .sqlite eventServer = some r) : r.rows ≠ [] := by
  have htable : (eventServer.contents eventTable.name).header =
    eventTable.columns.map Column.name := rfl
  obtain ⟨output, filters, order, l, hparts, hl, hrows⟩ :=
    rows?_of_compile (q := { eventQuery with distinct }) rfl htable hst
  cases hr.symm.trans hrows
  intro hempty
  -- The parts of the query are known, and its rows need not be sorted to be counted.
  have hkey : HasParts .sqlite { eventQuery with distinct } .all [] [⟨⟨none, "Name", ⟨0⟩⟩, true⟩] :=
    ⟨rfl, rfl, eventQuery.orderings, rfl, rfl⟩
  obtain ⟨rfl, rfl, rfl⟩ := hkey.unique hparts
  obtain ⟨header, shown, hshown, hlength⟩ := Clauses.length_listed?_eq hl
  cases hshown
  have htwo : l.rows.length = 2 := by
    cases distinct with
    | _ => exact hlength
  have hempty : (Window.ofPage .sqlite none (some 1)).of l.rows = [] := hempty
  obtain hfew | hnone := Window.ofPage_eq_nil.mp hempty
  · rw [htwo] at hfew
    exact absurd hfew (by decide)
  · exact absurd hnone (by decide)

/-- The terminal that asks for any event, on a server with two events: without the first of them it
finds a row just if the query has one, which is so, and for the different events it finds none. -/
theorem any_has_row_events :
    ((Query.all eventTable ⟨0⟩).build laterOperations = .ok laterEvents ∧
      laterEvents.terminal = .sequence ∧ laterEvents.distinct = false ∧
      (eventServer.contents laterEvents.table.name).header =
        laterEvents.table.columns.map Column.name ∧
      (∀ row, eventServer.same row row = true) ∧
      ∃ st st' r r', laterEvents.compile .sqlite = .ok st ∧
        (laterEvents.closed .any).compile .sqlite = .ok st' ∧
        st.rows? .sqlite eventServer = some r ∧ st'.rows? .sqlite eventServer = some r' ∧
        (r'.rows ≠ [] ↔ r.rows ≠ []) ∧ r'.rows ≠ []) ∧
    (Query.all eventTable ⟨0⟩).build eventOperations = .ok eventQuery ∧
      eventQuery.terminal = .sequence ∧
      (eventServer.contents eventQuery.table.name).header =
        eventQuery.table.columns.map Column.name ∧
      ((∃ st, (eventQuery.closed .any).compile .sqlite = .ok st) ↔
        ∃ st, eventQuery.compile .sqlite = .ok st) ∧
      ∀ st st', eventQuery.compile .sqlite = .ok st →
        (eventQuery.closed .any).compile .sqlite = .ok st' →
          ∃ r r', st.rows? .sqlite eventServer = some r ∧ st'.rows? .sqlite eventServer = some r' ∧
            (eventQuery.distinct = false ∨ eventQuery.skip.getD 0 = 0 →
              (r'.rows ≠ [] ↔ r.rows ≠ [])) ∧
            (eventQuery.distinct = true → 0 < eventQuery.skip.getD 0 → r'.rows = []) := by
  have hlater : (Query.all eventTable ⟨0⟩).build laterOperations = .ok laterEvents := rfl
  have hbuild : (Query.all eventTable ⟨0⟩).build eventOperations = .ok eventQuery := rfl
  have hsame : ∀ row, eventServer.same row row = true := fun row => beq_self_eq_true row
  have htable : (eventServer.contents laterEvents.table.name).header =
    laterEvents.table.columns.map Column.name := rfl
  refine ⟨⟨hlater, rfl, rfl, rfl, hsame, ?_⟩, hbuild, rfl, rfl, any_has_row hbuild rfl rfl hsame⟩
  obtain ⟨hcompiles, hrows⟩ := any_has_row hlater rfl htable hsame
  obtain ⟨st, hst⟩ : ∃ st, laterEvents.compile .sqlite = .ok st := Query.exists_compile rfl
  obtain ⟨st', hst'⟩ := hcompiles.mpr ⟨st, hst⟩
  obtain ⟨r, r', hr, hr', hsome, -⟩ := hrows st st' hst hst'
  have hiff := hsome (.inl rfl)
  exact ⟨st, st', r, r', hst, hst', hr, hr', hiff, hiff.mpr (eventQuery_has_row false hst hr)⟩

/-- The different events without the first have a row, which the terminal that asks for any row does
not find. -/
theorem any_misses_event :
    (Query.all eventTable ⟨0⟩).build eventOperations = .ok eventQuery ∧
      (Query.all eventTable ⟨0⟩).build (eventOperations ++ [⟨"Any", []⟩]) =
        .ok (eventQuery.closed .any) ∧
      ∃ st st' r r', eventQuery.compile .sqlite = .ok st ∧
        (eventQuery.closed .any).compile .sqlite = .ok st' ∧
        st.rows? .sqlite eventServer = some r ∧ st'.rows? .sqlite eventServer = some r' ∧
        r.rows ≠ [] ∧ r'.rows = [] := by
  obtain ⟨st, hst⟩ : ∃ st, eventQuery.compile .sqlite = .ok st := Query.exists_compile rfl
  obtain ⟨st', hst'⟩ : ∃ st', (eventQuery.closed .any).compile .sqlite = .ok st' :=
    Query.exists_compile rfl
  have hsame : ∀ row, eventServer.same row row = true := fun row => beq_self_eq_true row
  have htable : (eventServer.contents eventQuery.table.name).header =
    eventQuery.table.columns.map Column.name := rfl
  obtain ⟨r', hr', hnil⟩ := rows?_any_nil hsame htable rfl (by decide) hst'
  obtain ⟨output, filters, order, l, -, -, hr⟩ := rows?_of_compile rfl htable hst
  exact ⟨rfl, rfl, st, st', _, r', hst, hst', hr, hr', eventQuery_has_row true hst hr, hnil⟩

end TableQuery.Sql
