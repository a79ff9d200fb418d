import TableQuery.Proofs.Rows.Terminals
import TableQuery.Proofs.Schema.Names

/-!
# Sorted rows

The sort keys of a statement order rows lexicographically.  Where the server's comparison of values
is a preorder, so is this order of rows (`Server.ordered_total`, `Server.ordered_trans`), and
sorting puts a least row first (`Server.sorted_head`).  With every key turned round the order goes
from the end to the start (`Server.ordered_reversed`), also where keys repeat a column or differ in
direction.

A statement names the columns that it sorts by and returns.  The names of a table's columns are
different, so they stand for the columns of the query (`keyList?_own`, `columnList?_own`).
-/

namespace TableQuery

/-- The columns and directions of sort keys. -/
def SortKey.pairs (keys : List SortKey) : List (Nat × Bool) :=
  keys.map fun k => (k.column, k.ascending)

/-- There are pairs just if there are keys. -/
lemma SortKey.isEmpty_pairs (keys : List SortKey) : (pairs keys).isEmpty = keys.isEmpty :=
  List.isEmpty_map

/-- Keys turned round have the same columns, in the other directions. -/
lemma SortKey.pairs_reverse (keys : List SortKey) :
    pairs (keys.map reverse) = (pairs keys).map fun k => (k.1, !k.2) := by
  simp [pairs, reverse]

namespace Sql

open Std

variable {V : Type}

namespace Server

variable (server : Server V)

/-- The order of two rows by one sort key. -/
def keyOrder (k : Nat × Bool) (r s : List V) : Ordering :=
  if k.2 then server.compare (r.getD k.1 server.null) (s.getD k.1 server.null)
  else server.compare (s.getD k.1 server.null) (r.getD k.1 server.null)

/-- A row stands strictly before another. -/
def Precedes (keys : List (Nat × Bool)) (r s : List V) : Prop :=
  server.ordered keys r s = true ∧ server.ordered keys s r = false

/-- A row is among some rows, and none of them follows it strictly. -/
structure IsLast (keys : List (Nat × Bool)) (rows : List (List V)) (row : List V) : Prop where
  mem : row ∈ rows
  last : ∀ r ∈ rows, ¬server.Precedes keys row r

/-- Whether sort keys tell all rows apart that differ. -/
def Distinguishes (keys : List (Nat × Bool)) (rows : List (List V)) : Prop :=
  ∀ r ∈ rows, ∀ s ∈ rows, server.ordered keys r s = true → server.ordered keys s r = true → r = s

section Orders

variable {server} [TransCmp server.compare] {k : Nat × Bool} {keys : List (Nat × Bool)}
  {rows : List (List V)} {r s u row : List V}

/-- The order by one sort key is a preorder. -/
instance : TransCmp (server.keyOrder k) := by
  obtain ⟨i, ascending⟩ := k
  have hcolumn : TransCmp fun r s : List V =>
      server.compare (r.getD i server.null) (s.getD i server.null) :=
    { eq_swap := OrientedCmp.eq_swap, isLE_trans := TransCmp.isLE_trans }
  cases ascending with
  | true => exact hcolumn
  | false => exact @TransCmp.opposite _ _ hcolumn

/-- A row may stand before another by its first key, or by the others where the first does not tell
them apart. -/
lemma ordered_cons : server.ordered (k :: keys) r s = true ↔
    server.keyOrder k r s = .lt ∨ server.keyOrder k r s = .eq ∧ server.ordered keys r s = true := by
  obtain ⟨i, ascending⟩ := k
  rw [ordered, keyOrder]
  cases ascending with
  | true => cases server.compare (r.getD i server.null) (s.getD i server.null) <;> simp
  | false =>
    have hswap : server.compare (s.getD i server.null) (r.getD i server.null) =
        (server.compare (r.getD i server.null) (s.getD i server.null)).swap := OrientedCmp.eq_swap
    rw [if_neg Bool.false_ne_true, hswap]
    cases server.compare (r.getD i server.null) (s.getD i server.null) <;> simp

/-- Of two rows, one may stand before the other. -/
lemma ordered_total (keys : List (Nat × Bool)) (r s : List V) :
    server.ordered keys r s = true ∨ server.ordered keys s r = true := by
  induction keys with
  | nil => exact .inl rfl
  | cons k keys ih =>
    rw [ordered_cons, ordered_cons]
    cases h : server.keyOrder k r s with
    | lt => exact .inl (.inl rfl)
    | gt => exact .inr (.inl (OrientedCmp.lt_of_gt h))
    | eq =>
      have hback : server.keyOrder k s r = .eq := OrientedCmp.eq_symm h
      rcases ih with ih | ih
      · exact .inl (.inr ⟨rfl, ih⟩)
      · exact .inr (.inr ⟨hback, ih⟩)

/-- If one row may stand before a second and that before a third, then the first may stand before
the third. -/
lemma ordered_trans (hrs : server.ordered keys r s = true) (hsu : server.ordered keys s u = true) :
    server.ordered keys r u = true := by
  induction keys with
  | nil => rfl
  | cons k keys ih =>
    rw [ordered_cons] at hrs hsu ⊢
    rcases hrs with hrs | ⟨hrs, hrs'⟩
    · refine .inl ?_
      rcases hsu with hsu | ⟨hsu, -⟩
      · exact TransCmp.lt_trans hrs hsu
      · exact TransCmp.lt_of_lt_of_eq hrs hsu
    · rcases hsu with hsu | ⟨hsu, hsu'⟩
      · exact .inl (TransCmp.lt_of_eq_of_lt hrs hsu)
      · exact .inr ⟨TransCmp.eq_trans hrs hsu, ih hrs' hsu'⟩

/-- With every key turned round, the order is that from the end to the start. -/
lemma ordered_reversed :
    server.ordered (keys.map fun k => (k.1, !k.2)) r s = server.ordered keys s r := by
  rw [Bool.eq_iff_iff]
  induction keys with
  | nil => rfl
  | cons k keys ih =>
    have hkey : server.keyOrder (k.1, !k.2) r s = server.keyOrder k s r := by
      unfold keyOrder
      cases k.2 <;> rfl
    rw [List.map_cons, ordered_cons, ordered_cons, hkey, ih]

/-- A sorted list has a first row that may stand before every row. -/
lemma sorted_head (h : (rows.mergeSort (server.ordered keys)).head? = some row) :
    row ∈ rows ∧ ∀ r ∈ rows, server.ordered keys row r = true := by
  have hsorted : (rows.mergeSort (server.ordered keys)).Pairwise
      fun r s => server.ordered keys r s = true := by
    refine List.pairwise_mergeSort (fun r s u => ordered_trans) (fun r s => ?_) rows
    rw [Bool.or_eq_true]
    exact ordered_total keys r s
  obtain ⟨rest, hrest⟩ := List.head?_eq_some_iff.mp h
  have hmem : ∀ r, r ∈ rows ↔ r = row ∨ r ∈ rest := by
    intro r
    have hperm : (rows.mergeSort (server.ordered keys)).Perm rows := List.mergeSort_perm rows _
    rw [← hperm.mem_iff, hrest, List.mem_cons]
  rw [hrest, List.pairwise_cons] at hsorted
  refine ⟨(hmem row).mpr (.inl rfl), fun r hr => ?_⟩
  rcases (hmem r).mp hr with rfl | hr
  · exact (or_self_iff).mp (ordered_total keys r r)
  · exact hsorted.1 r hr

/-- The first row in the reverse order is a last one. -/
lemma isLast_of_head (h : (rows.mergeSort
      (server.ordered (keys.map fun k => (k.1, !k.2)))).head? = some row) :
    server.IsLast keys rows row := by
  obtain ⟨hmem, hfirst⟩ := sorted_head h
  refine ⟨hmem, fun r hr hprecedes => ?_⟩
  have hback : server.ordered keys r row = true := ordered_reversed.symm.trans (hfirst r hr)
  exact Bool.false_ne_true (hprecedes.2.symm.trans hback)

/-- A row that does not follow another strictly may stand before it. -/
lemma ordered_of_not_precedes (h : ¬server.Precedes keys r s) : server.ordered keys s r = true := by
  cases hsr : server.ordered keys s r with
  | true => rfl
  | false =>
    have htotal : server.ordered keys r s = true ∨ server.ordered keys s r = true :=
      ordered_total keys r s
    rw [hsr] at htotal
    exact absurd ⟨htotal.resolve_right Bool.false_ne_true, hsr⟩ h

/-- There is but one last row if the keys tell all rows apart. -/
lemma IsLast.unique (hkeys : server.Distinguishes keys rows) (hr : server.IsLast keys rows r)
    (hs : server.IsLast keys rows s) : r = s := by
  apply hkeys r hr.mem s hs.mem
  · exact ordered_of_not_precedes (hs.last r hr.mem)
  · exact ordered_of_not_precedes (hr.last s hs.mem)

end Orders

end Server

section Positions

variable {d : Dialect} {q : Query} (source : List Phrase)

/-- The name of a column of the own row stands for the column. -/
lemma columnIndex?_own {i : Nat} {c : ColumnName}
    (h : (Context.top d q).columnName ⟨q.source, i⟩ = .ok c) :
    columnIndex? source (q.table.columns.map Column.name) c.phrase = some i := by
  obtain ⟨scope, column, hscope, hcolumn, rfl⟩ := Context.columnName_eq_ok h
  cases (scope?_top rfl).symm.trans hscope
  have hqualified : (Context.top d q).qualify = false := rfl
  rw [Table.column?_eq] at hcolumn
  obtain ⟨hi, hcolumn⟩ := List.getElem?_eq_some_iff.mp hcolumn
  have hi : i < (q.table.columns.map Column.name).length := by
    rw [List.length_map]
    exact hi
  have hname : (q.table.columns.map Column.name)[i] = column.name := by
    rw [List.getElem_map]
    exact congrArg Column.name hcolumn
  rw [ColumnName.phrase, columnIndex?, hqualified, if_pos (.inl rfl), List.idxOf?_eq_some_iff]
  refine ⟨hi, hname, fun j hj he => ?_⟩
  have hji : j = i := (List.Nodup.getElem_inj_iff q.table.nodup_names).mp (he.trans hname.symm)
  exact absurd hji (Nat.ne_of_lt hj)

/-- The names of some columns of the own row stand for the columns. -/
lemma columnList?_own {is : List Nat} {cs : List ColumnName} (hne : is ≠ [])
    (h : is.mapM (fun i => (Context.top d q).columnName ⟨q.source, i⟩) = .ok cs) :
    columnList? source (q.table.columns.map Column.name) (commaed (cs.map fun c => [c.phrase])) =
      some is := by
  induction is generalizing cs with
  | nil => exact absurd rfl hne
  | cons i is ih =>
    rw [List.mapM_cons] at h
    obtain ⟨c, hc, h⟩ := ok_of_bind h
    obtain ⟨cs, hcs, h⟩ := ok_of_bind h
    cases h
    have hi := columnIndex?_own source hc
    cases is with
    | nil =>
      cases hcs
      show columnList? source _ [c.phrase] = some [i]
      rw [columnList?, hi]
      rfl
    | cons j js =>
      have hjs := ih (List.cons_ne_nil j js) hcs
      cases cs with
      | nil => cases hjs
      | cons b bs =>
        have hcommaed : commaed ((c :: b :: bs).map fun a => [a.phrase]) =
            c.phrase :: .mark ',' :: commaed ((b :: bs).map fun a => [a.phrase]) := rfl
        rw [hcommaed, columnList?, hi, hjs]
        rfl

/-- Sort keys, with commas between them, stand for those of the query. -/
lemma keyList?_own {keys : List SortKey} {order : List OrderTerm} (hne : keys ≠ [])
    (h : keys.mapM (OrderTerm.of (Context.top d q) q) = .ok order) :
    keyList? source (q.table.columns.map Column.name) (commaed (order.map OrderTerm.phrases)) =
      some (SortKey.pairs keys) := by
  induction keys generalizing order with
  | nil => exact absurd rfl hne
  | cons k keys ih =>
    rw [List.mapM_cons] at h
    obtain ⟨t, ht, h⟩ := ok_of_bind h
    obtain ⟨ts, hts, h⟩ := ok_of_bind h
    cases h
    obtain ⟨c, hc, ht⟩ := ok_of_bind ht
    cases ht
    have hk := columnIndex?_own source hc
    cases keys with
    | nil =>
      cases hts
      -- Before the last key there is a comma, behind it there is none.
      show keyList? source _ [c.phrase, .word (if k.ascending then "ASC" else "DESC")] = _
      rw [keyList?, hk, direction?_word]
      rfl
    | cons l ls =>
      have hls := ih (List.cons_ne_nil l ls) hts
      cases ts with
      | nil => cases hls
      | cons u us =>
        have hcommaed : commaed ((⟨c, k.ascending⟩ :: u :: us).map OrderTerm.phrases) =
            c.phrase :: .word (if k.ascending then "ASC" else "DESC") :: .mark ',' ::
              commaed ((u :: us).map OrderTerm.phrases) := rfl
        rw [hcommaed, keyList?, hk, direction?_word, hls]
        rfl

/-- The sort keys of a statement stand for those of the query. -/
lemma sortKeys?_own {keys : List SortKey} {order : List OrderTerm}
    (h : keys.mapM (OrderTerm.of (Context.top d q) q) = .ok order) :
    sortKeys? source (q.table.columns.map Column.name) (orderInside order) =
      some (SortKey.pairs keys) := by
  cases keys with
  | nil =>
    cases h
    rfl
  | cons k keys =>
    have hlist := keyList?_own source (List.cons_ne_nil k keys) h
    cases order with
    | nil => cases hlist
    | cons t ts => exact hlist

end Positions

section Listing

variable {server : Server V} {d : Dialect} {q : Query} {output : Output} {filters : List Cond}
  {order : List OrderTerm}

/-- What a query returns for a row: the row, or what it has in the selected columns. -/
def Server.shown (server : Server V) (q : Query) (row : List V) : List V :=
  if q.projection.isEmpty then row else q.projection.map (row.getD · server.null)

/-- Rows in the order of sort keys, or as they are if there are none. -/
def Server.arranged (server : Server V) (keys : List SortKey) (rows : List (List V)) :
    List (List V) :=
  if keys.isEmpty then rows
  else rows.mergeSort (server.ordered (SortKey.pairs keys))

/-- The statement of a query returns what the query returns for a row, unless it counts or asks for
any row. -/
lemma output?_own (server : Server V) (source : List Phrase)
    (hcount : q.terminal.isCount = false) (hany : q.terminal ≠ .any)
    (h : Output.of (Context.top d q) q = .ok output) :
    ∃ header, server.output? source (q.table.columns.map Column.name) output.phrases =
      some (header, server.shown q) := by
  rw [Output.of, hcount, if_neg Bool.false_ne_true, if_neg hany] at h
  -- Without a projection the whole row is shown.
  cases hprojection : q.projection with
  | nil =>
    rw [hprojection] at h
    cases h
    have hshown : server.shown q = id := by
      funext row
      rw [Server.shown, hprojection]
      rfl
    exact ⟨_, by rw [hshown]; rfl⟩
  | cons i is =>
    have hne : q.projection ≠ [] := by
      rw [hprojection]
      exact List.cons_ne_nil i is
    rw [List.isEmpty_eq_false_iff.mpr hne, if_neg Bool.false_ne_true] at h
    obtain ⟨names, hnames, h⟩ := ok_of_bind h
    cases h
    have hlist := columnList?_own source hne hnames
    have hshown : server.shown q = fun row => q.projection.map (row.getD · server.null) := by
      funext row
      rw [Server.shown, hprojection]
      rfl
    cases names with
    | nil => exact absurd (eq_nil_of_mapM_ok hnames) hne
    | cons c cs =>
      rw [output?_columns, hlist, hshown]
      exact ⟨_, rfl⟩

/-- Where equal rows count as often as they occur, the clauses of a statement list the rows that
satisfy the conditions in the order of the sort keys. -/
lemma HasParts.arranged {keys : List SortKey} (h : HasParts d q output filters order)
    (server : Server V) (hcount : q.terminal.isCount = false) (hany : q.terminal ≠ .any)
    (hdistinct : q.distinct = false) (hkeys : q.sortKeys = .ok keys)
    (htable : (server.contents q.table.name).header = q.table.columns.map Column.name) :
    ∃ header, ((assembled d q output filters order).clauses d).listed? server
      (server.contents q.table.name) = some ⟨header, (server.arranged keys
        (((assembled d q output filters order).clauses d).kept server
          (server.contents q.table.name))).map (server.shown q)⟩ := by
  obtain ⟨keys', hkeys', horder⟩ := h.order
  cases hkeys.symm.trans hkeys'
  generalize hc : (assembled d q output filters order).clauses d = c
  have houtput : c.output = output.phrases := by
    rw [← hc]
    rfl
  have horders : c.order = orderInside order := by
    rw [← hc]
    rfl
  have honce : c.distinct = false := by
    rw [← hc]
    simp [Select.clauses, assembled, hdistinct]
  obtain ⟨header, hshown⟩ := output?_own server c.source hcount hany h.output
  refine ⟨header, ?_⟩
  unfold Clauses.listed?
  rw [houtput, horders, htable, hshown, Option.bind_eq_bind, Option.bind_some,
    sortKeys?_own c.source horder]
  simp only [honce, Option.bind_eq_bind, Option.bind_some, SortKey.isEmpty_pairs,
    Bool.false_eq_true, if_false, Option.pure_def, Option.some.injEq, Relation.mk.injEq, true_and,
    Server.arranged]
  generalize c.kept server (server.contents q.table.name) = rows
  -- The rows are sorted with what is returned for them, which the order does not depend on.
  split
  · rw [List.map_map]
    rfl
  · have hpairs := List.map_mergeSort (l := rows) (f := fun row => (row, server.shown q row))
      (r := server.ordered (SortKey.pairs keys))
      (s := fun a b => server.ordered (SortKey.pairs keys) a.1 b.1)
      fun a _ b _ => rfl
    rw [← hpairs, List.map_map]
    rfl

end Listing

end Sql

end TableQuery
