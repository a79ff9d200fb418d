import TableQuery.Proofs.Schema.Index
import TableQuery.Proofs.Scoping.Mentions
import TableQuery.Proofs.Statement

/-!
# Column names mean their rows

Every column name in a text is read from the table of the row that the column reference stands for:
the innermost row around it with the identity that the reference carries (`columns_resolve`).

A row is clear in a place if a name leads to it there: where names are not qualified, it is the
innermost row; and no row further inside comes from a table of the same name.  The innermost row is
always clear.  A row that is clear stays so inside a subquery that reads it, since such a subquery
has qualified names and reads none of the tables around it (`Clear.enter`).
-/

namespace TableQuery.Sql

/-- The innermost row with an identity, by its position among the rows in reach. -/
def Context.position? (ctx : Context) (source : SourceId) : Option Nat :=
  ctx.scopes.findIdx? fun s => s.source == source

/-- The innermost row in reach that comes from a table with a name. -/
def Context.tablePosition? (ctx : Context) (table : String) : Option Nat :=
  ctx.scopes.findIdx? fun s => s.table.name == table

/-- Whether the name of a column leads to the row that has an identity, if there is such a row. -/
structure Clear (ctx : Context) (source : SourceId) : Prop where
  /-- Where names are not qualified, the row is the innermost one. -/
  innermost : ∀ {i}, ctx.position? source = some i → ctx.qualify = false → i = 0
  /-- No row further inside comes from a table of the same name. -/
  named : ∀ {i s}, ctx.position? source = some i → ctx.scopes[i]? = some s →
    ctx.tablePosition? s.table.name = some i

section Places

variable {ctx : Context} {q : Query} {source : SourceId}

/-- The innermost row has the first position. -/
lemma position?_own (ctx : Context) : ctx.position? ctx.row.source = some 0 := by
  rw [Context.position?, Context.scopes, List.findIdx?_cons, beq_self_eq_true, if_pos rfl]

/-- The table of the innermost row has the first position. -/
lemma tablePosition?_own (ctx : Context) : ctx.tablePosition? ctx.row.table.name = some 0 := by
  rw [Context.tablePosition?, Context.scopes, List.findIdx?_cons, beq_self_eq_true, if_pos rfl]

/-- The innermost row is clear. -/
lemma Clear.own (ctx : Context) : Clear ctx ctx.row.source where
  innermost h _ := by
    rw [position?_own] at h
    cases h
    rfl
  named h hs := by
    rw [position?_own] at h
    cases h
    cases hs
    exact tablePosition?_own ctx

/-- In the place of a single row, every row in reach is clear. -/
lemma Clear.top (d : Dialect) (q : Query) (source : SourceId) : Clear (Context.top d q) source := by
  by_cases he : source = q.source
  · subst he
    exact Clear.own (Context.top d q)
  · have hnone : (Context.top d q).position? source = none := by
      have hne : (q.source == source) = false := beq_eq_false_iff_ne.mpr fun h => he h.symm
      simp [Context.position?, Context.scopes, Context.top, Scope.of, hne]
    constructor
    case innermost =>
      intro i h
      rw [hnone] at h
      cases h
    case named =>
      intro i s h
      rw [hnone] at h
      cases h

/-- The other rows inside a query are those around it. -/
lemma position?_enter {qualify : Bool} (h : source ≠ q.source) :
    (ctx.enter q qualify).position? source = (ctx.position? source).map (· + 1) := by
  have hne : (q.source == source) = false := beq_eq_false_iff_ne.mpr fun he => h he.symm
  have hscopes : (ctx.enter q qualify).scopes = Scope.of q :: ctx.scopes := rfl
  rw [Context.position?, hscopes, List.findIdx?_cons, Scope.of, hne]
  rfl

/-- Inside a query that reads another table than those around it, a table around it is the next one
of its name. -/
lemma tablePosition?_enter {qualify : Bool} {s : Scope} {i : Nat}
    (hq : ctx.readsTableOf q = false) (hs : ctx.scopes[i]? = some s) :
    (ctx.enter q qualify).tablePosition? s.table.name =
      (ctx.tablePosition? s.table.name).map (· + 1) := by
  have hne : (q.table.name == s.table.name) = false := by
    have hs := List.any_eq_false.mp hq s (List.mem_of_getElem? hs)
    rw [beq_eq_false_iff_ne]
    intro he
    exact hs (beq_iff_eq.mpr he.symm)
  have hscopes : (ctx.enter q qualify).scopes = Scope.of q :: ctx.scopes := rfl
  rw [Context.tablePosition?, hscopes, List.findIdx?_cons, Scope.of, hne]
  rfl

/-- A clear row stays clear inside a query, if names are qualified there and the query reads another
table than those around it; the query's own row is clear in any case. -/
theorem Clear.enter {qualify : Bool} (h : Clear ctx source)
    (hq : ∀ i, ctx.position? source = some i → qualify = true ∧ ctx.readsTableOf q = false) :
    Clear (ctx.enter q qualify) source := by
  by_cases he : source = q.source
  · subst he
    exact Clear.own (ctx.enter q qualify)
  · constructor
    case innermost =>
      intro i hi hqualify
      rw [position?_enter he] at hi
      obtain ⟨j, hj, rfl⟩ := Option.map_eq_some_iff.mp hi
      have hqualify : qualify = false := hqualify
      rw [(hq j hj).1] at hqualify
      cases hqualify
    case named =>
      intro i s hi hs
      rw [position?_enter he] at hi
      obtain ⟨j, hj, rfl⟩ := Option.map_eq_some_iff.mp hi
      have hs : ctx.scopes[j]? = some s := hs
      rw [tablePosition?_enter (hq j hj).2 hs, h.named hj hs]
      rfl

/-- A query that reads a row around it is correlated. -/
lemma isCorrelated_of_position? {p : Expr} {i : Nat} (hp : q.predicate = some p)
    (hr : p.references source = true) (hi : ctx.position? source = some i) :
    ctx.isCorrelated q = true := by
  obtain ⟨s, hs, hsource⟩ : ∃ s ∈ ctx.scopes, (s.source == source) = true := by
    have hsome : (ctx.position? source).isSome = true := by
      rw [hi]
      rfl
    rw [Context.position?, List.findIdx?_isSome] at hsome
    exact List.any_eq_true.mp hsome
  rw [Context.isCorrelated, hp]
  refine List.any_eq_true.mpr ⟨s, hs, ?_⟩
  rw [beq_iff_eq.mp hsource]
  exact hr

/-- A clear row stays clear inside a query whose filter refers to it, where its rows are listed. -/
theorem Clear.inside {p : Expr} (h : Clear ctx source) (hp : q.predicate = some p)
    (hr : p.references source = true) (hfree : (ctx.isCorrelated q && ctx.readsTableOf q) = false) :
    Clear (ctx.inside q) source := by
  refine h.enter fun i hi => ?_
  have hcorrelated := isCorrelated_of_position? hp hr hi
  rw [hcorrelated, Bool.true_and] at hfree
  exact ⟨by rw [hcorrelated, Bool.or_true], hfree⟩

end Places

section Sites

/-- Whether all rows that some leaves refer to are clear in a place. -/
def AllClear (ctx : Context) (leaves : List Leaf) : Prop :=
  ∀ ref ∈ leaves.filterMap Leaf.column?, Clear ctx ref.source

/-- The rows of two lists of leaves. -/
lemma allClear_append {ctx : Context} {us vs : List Leaf} :
    AllClear ctx (us ++ vs) ↔ AllClear ctx us ∧ AllClear ctx vs := by
  simp only [AllClear, List.filterMap_append, List.forall_mem_append]

/-- The rows that the filter of a query refers to are clear inside the query, where its rows are
listed. -/
lemma AllClear.inside {ctx : Context} {q : Query} (h : AllClear ctx q.leaves)
    (hfree : (ctx.isCorrelated q && ctx.readsTableOf q) = false) :
    AllClear (ctx.inside q) q.leaves := by
  intro ref href
  have hclear := h ref href
  have hleaves : q.leaves = optionLeaves q.predicate := by
    cases q
    rfl
  rw [hleaves] at href
  cases hp : q.predicate with
  | none =>
    rw [hp] at href
    cases href
  | some p =>
    rw [hp] at href
    have hr : p.references ref.source = true :=
      List.any_eq_true.mpr ⟨ref, href, beq_self_eq_true ref.source⟩
    exact hclear.inside hp hr hfree

/-- The rows that some leaves refer to are clear inside a query whose rows are asked for. -/
lemma AllClear.within {ctx : Context} {q : Query} {leaves : List Leaf} (h : AllClear ctx leaves)
    (hfree : ctx.readsTableOf q = false) : AllClear (ctx.enter q true) leaves :=
  fun ref href => (h ref href).enter fun _ _ => ⟨rfl, hfree⟩

mutual

/-- The rows that an expression reads are clear where they are read. -/
theorem exprSites_clear : (e : Expr) → (ctx : Context) → AllClear ctx e.leaves →
    ∀ s ∈ exprSites e ctx, Clear s.place s.ref.source
  | .value _, _, _ => nofun
  | .column ref, ctx, h => List.forall_mem_singleton.mpr (h ref List.mem_cons_self)
  | .unary _ e, ctx, h | .cast e _ _, ctx, h | .inList e _, ctx, h => exprSites_clear e ctx h
  | .binary _ l r, ctx, h => by
    rw [Expr.leaves, allClear_append] at h
    exact List.forall_mem_append.mpr ⟨exprSites_clear l ctx h.1, exprSites_clear r ctx h.2⟩
  | .conditional test yes no, ctx, h => by
    rw [Expr.leaves, allClear_append, allClear_append] at h
    have hbefore := List.forall_mem_append.mpr
      ⟨exprSites_clear test ctx h.1.1, exprSites_clear yes ctx h.1.2⟩
    exact List.forall_mem_append.mpr ⟨hbefore, exprSites_clear no ctx h.2⟩
  | .call _ args, ctx, h => listSites_clear args ctx h
  | .inSubquery e q, ctx, h => by
    rw [Expr.leaves, allClear_append] at h
    rw [exprSites]
    refine List.forall_mem_append.mpr ⟨exprSites_clear e ctx h.1, ?_⟩
    split
    case isTrue => exact nofun
    case isFalse hfree =>
      have hclear := h.2.inside (Bool.eq_false_iff.mpr hfree)
      exact querySites_clear q (ctx.inside q) rfl hclear
  | .exists q condition, ctx, h => by
    rw [Expr.leaves, allClear_append] at h
    rw [exprSites]
    split
    case isTrue => exact nofun
    case isFalse hfree =>
      have hfree := Bool.eq_false_iff.mpr hfree
      exact List.forall_mem_append.mpr
        ⟨querySites_clear q (ctx.enter q true) rfl (h.1.within hfree),
          optionSites_clear condition (ctx.enter q true) (h.2.within hfree)⟩

/-- The rows that several expressions read are clear where they are read. -/
theorem listSites_clear : (es : List Expr) → (ctx : Context) → AllClear ctx (listLeaves es) →
    ∀ s ∈ listSites es ctx, Clear s.place s.ref.source
  | [], _, _ => nofun
  | e :: es, ctx, h => by
    rw [listLeaves, allClear_append] at h
    exact List.forall_mem_append.mpr ⟨exprSites_clear e ctx h.1, listSites_clear es ctx h.2⟩

/-- The rows that an expression reads that may be absent are clear where they are read. -/
theorem optionSites_clear : (o : Option Expr) → (ctx : Context) → AllClear ctx (optionLeaves o) →
    ∀ s ∈ optionSites o ctx, Clear s.place s.ref.source
  | none, _, _ => nofun
  | some e, ctx, h => exprSites_clear e ctx h

/-- The rows that a query reads are clear where they are read. -/
theorem querySites_clear : (q : Query) → (ctx : Context) → ctx.row = Scope.of q →
    AllClear ctx q.leaves → ∀ s ∈ querySites q ctx, Clear s.place s.ref.source
  | ⟨table, source, predicate, _, _, _, _, _, _⟩, ctx, hrow, h => by
    have hown : Clear ctx source := by
      have hown := Clear.own ctx
      rw [hrow] at hown
      exact hown
    rw [querySites]
    refine List.forall_mem_append.mpr ⟨?_, optionSites_clear predicate ctx h⟩
    exact List.forall_mem_map.mpr fun _ _ => hown

end

end Sites

/-- The name of a column of a clear row leads to that row. -/
lemma Clear.target? {ctx : Context} {ref : ColumnRef} {c : ColumnName} (h : Clear ctx ref.source)
    (hc : ctx.columnName ref = .ok c) :
    c.row = ref.source ∧
      ∃ i, ctx.position? ref.source = some i ∧ (Use.mk ctx.froms c).mention.target? = some i := by
  obtain ⟨scope, column, hs, -, rfl⟩ := Context.columnName_eq_ok hc
  obtain ⟨i, hi, hget⟩ :
      ∃ i, ctx.position? ref.source = some i ∧ ctx.scopes[i]? = some scope := by
    rw [Context.scope?, List.find?_eq_bind_findIdx?_getElem?] at hs
    exact Option.bind_eq_some_iff.mp hs
  refine ⟨rfl, i, hi, ?_⟩
  cases hqualify : ctx.qualify with
  | false =>
    have hzero := h.innermost hi hqualify
    subst hzero
    rfl
  | true =>
    have htable := h.named hi hget
    rw [Context.tablePosition?] at htable
    simp only [Use.mention, Mention.target?, if_true, tableNames, Context.froms, List.map_map,
      List.findIdx?_map]
    exact htable

/-- Every column name in the text of a query is read from the table of the row that it was written
for. The names in the text are those in the tree of the statement, in order, and each of them was
written for a column reference that stands in a place of the query: the tables around the name are
those of the rows around the reference, and among them the name is read from the innermost one whose
row has the identity that the reference carries. -/
theorem columns_resolve {d : Dialect} {q : Query} {st : Statement} (h : q.compile d = .ok st) :
    ∃ s ps, (ofQuery d q).result = .ok (.select s) ∧ st.phrases? d = some ps ∧
      mentions ps = (s.uses []).map Use.mention ∧
      ∀ u ∈ s.uses [], ∃ site ∈ querySites q (Context.top d q),
        u.chain = site.place.froms ∧ site.place.columnName site.ref = .ok u.column ∧
          u.column.row = site.ref.source ∧
          ∃ i, site.place.position? site.ref.source = some i ∧ u.mention.target? = some i := by
  have hclear := querySites_clear q (Context.top d q) rfl fun ref _ => Clear.top d q ref.source
  have hadmits : Admits (fun chain c => ∃ site ∈ querySites q (Context.top d q),
      chain = site.place.froms ∧ site.place.columnName site.ref = .ok c ∧ c.row = site.ref.source ∧
        ∃ i, site.place.position? site.ref.source = some i ∧
          (Use.mk chain c).mention.target? = some i) (querySites q (Context.top d q)) := by
    intro site hsite c hc
    obtain ⟨hrow, hi⟩ := (hclear site hsite).target? hc
    exact ⟨site, hsite, rfl, hc, hrow, hi⟩
  obtain ⟨s, hs, ⟨hwritten, -⟩, hread⟩ := Query.phrases?_of hadmits h
  exact ⟨s, s.phrases d, hs, hread, Select.mentionsFrom_phrases [] s, Select.uses_ok [] s hwritten⟩

/-- A table of boxes. -/
def boxTable : Table :=
  .of "boxes" [⟨"id", "Id", .int, false, true⟩] (by decide)

/-- A table of labels. -/
def labelTable : Table :=
  .of "labels" [⟨"id", "Id", .int, false, true⟩, ⟨"box", "Box", .int, false, false⟩] (by decide)

/-- A query for boxes with a label, which are listed again in a subquery whose row has the same
identity. -/
def boxQuery : Query :=
  { Query.all boxTable ⟨0⟩ with
    predicate := some (.binary .and
      (.exists (Query.all labelTable ⟨1⟩)
        (some (.binary .equal (.column ⟨⟨1⟩, 1⟩) (.column ⟨⟨0⟩, 0⟩))))
      (.inSubquery (.column ⟨⟨0⟩, 0⟩) { Query.all boxTable ⟨0⟩ with projection := [0] })) }

set_option maxRecDepth 8000 in
/-- The column names in the statement of the query for boxes mean their rows. -/
theorem columns_resolve_boxes :
    ∃ st, boxQuery.compile .postgreSql = .ok st ∧
      ∃ s ps, (ofQuery .postgreSql boxQuery).result = .ok (.select s) ∧
        st.phrases? .postgreSql = some ps ∧ mentions ps = (s.uses []).map Use.mention ∧
        ∀ u ∈ s.uses [], ∃ site ∈ querySites boxQuery (Context.top .postgreSql boxQuery),
          u.chain = site.place.froms ∧ site.place.columnName site.ref = .ok u.column ∧
            u.column.row = site.ref.source ∧
            ∃ i, site.place.position? site.ref.source = some i ∧ u.mention.target? = some i := by
  obtain ⟨st, h⟩ : ∃ st, boxQuery.compile .postgreSql = .ok st := ⟨_, rfl⟩
  exact ⟨st, h, columns_resolve h⟩

end TableQuery.Sql
