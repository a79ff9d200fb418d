import TableQuery.Proofs.Emission.Widening
import TableQuery.Proofs.Renaming.Build
import TableQuery.Sql.Forms

/-!
# Other places to stand

The place of an expression may be varied in two ways: its rows may have other names, and there may
be more rows around all others (`Context.vary`).  A row that the expression does not read makes no
difference to the names and the storage classes of its columns.  Nor does it make a difference to
whether a subquery reads rows around it.  But it does count where a subquery may not read a table
that a row around it comes from.
-/

namespace TableQuery.Sql

/-- Other names for rows, and rows around all others. -/
structure Variation where
  rename : SourceId → SourceId
  beyond : List Scope

/-- A row with another name. -/
def Scope.rename (f : SourceId → SourceId) (s : Scope) : Scope := ⟨f s.source, s.table⟩

/-- A column name of a row with another name. -/
def ColumnName.rename (f : SourceId → SourceId) (c : ColumnName) : ColumnName :=
  { c with row := f c.row }

/-- The place in which rows have other names and more rows are around. -/
def Context.vary (ctx : Context) (v : Variation) : Context :=
  { ctx with
    row := ctx.row.rename v.rename
    outer := (ctx.outer ++ v.beyond).map (Scope.rename v.rename) }

/-- Different rows keep different names, and the further rows are not read by some columns. -/
structure Variation.Spares (v : Variation) (refs : List ColumnRef) : Prop where
  injective : Function.Injective v.rename
  unread : ∀ ref ∈ refs, ∀ s ∈ v.beyond, s.source ≠ ref.source

variable {ctx : Context} {v : Variation} {q : Query}

/-- To spare the references of two lists is to spare those of each. -/
lemma Variation.spares_append {refs refs' : List ColumnRef} :
    v.Spares (refs ++ refs') ↔ v.Spares refs ∧ v.Spares refs' := by
  constructor
  · rintro ⟨hinjective, hunread⟩
    rw [List.forall_mem_append] at hunread
    exact ⟨⟨hinjective, hunread.1⟩, ⟨hinjective, hunread.2⟩⟩
  · rintro ⟨h, h'⟩
    exact ⟨h.injective, List.forall_mem_append.mpr ⟨h.unread, h'.unread⟩⟩

/-- To spare the columns among the leaves of two lists is to spare those of each. -/
lemma Variation.spares_leaves {ls ls' : List Leaf} :
    v.Spares ((ls ++ ls').filterMap Leaf.column?) ↔
      v.Spares (ls.filterMap Leaf.column?) ∧ v.Spares (ls'.filterMap Leaf.column?) := by
  rw [List.filterMap_append, spares_append]

namespace Context

/-- The rows that can be read in a varied place. -/
lemma scopes_vary :
    (ctx.vary v).scopes = (ctx.scopes ++ v.beyond).map (Scope.rename v.rename) := rfl

/-- To enter a renamed query in a varied place is to vary the place inside. -/
lemma enter_vary (qualify : Bool) :
    (ctx.vary v).enter (q.rename v.rename) qualify = (ctx.enter q qualify).vary v := by
  cases q
  rfl

/-- A row is found under its new name, unless a further row has the name of one that is missing. -/
lemma scope?_vary (hv : Function.Injective v.rename) {source : SourceId}
    (h : ctx.scope? source = none → ∀ s ∈ v.beyond, s.source ≠ source) :
    (ctx.vary v).scope? (v.rename source) = (ctx.scope? source).map (Scope.rename v.rename) := by
  have hfind : ∀ ss : List Scope, (ss.map (Scope.rename v.rename)).find?
      (fun s => s.source == v.rename source) =
        (ss.find? fun s => s.source == source).map (Scope.rename v.rename) := by
    intro ss
    rw [List.find?_map]
    congr 2
    funext s
    exact Bool.eq_iff_iff.mpr (by simpa [Scope.rename] using hv.eq_iff)
  rw [scope?, scopes_vary, hfind, List.find?_append]
  -- The innermost row is found first, so the further rows only count where there is none.
  cases hs : ctx.scopes.find? fun s => s.source == source with
  | some s => simp [scope?, hs]
  | none =>
    have hnone : v.beyond.find? (fun s => s.source == source) = none := by
      simpa using h hs
    simp [scope?, hs, hnone]

section Columns

variable {ref : ColumnRef} {e : Expr}

/-- A spared column keeps its storage class. -/
lemma columnType_vary (h : v.Spares [ref]) :
    (ctx.vary v).columnType (ref.rename v.rename) = ctx.columnType ref := by
  have hscope : (ctx.vary v).scope? (v.rename ref.source) =
      (ctx.scope? ref.source).map (Scope.rename v.rename) :=
    scope?_vary h.injective fun _ => h.unread ref List.mem_cons_self
  unfold columnType
  rw [ColumnRef.rename, hscope]
  cases ctx.scope? ref.source <;> rfl

/-- The name of a column has the new name of its row, or the column is not found for the same
reason. -/
lemma columnName_vary (hv : Function.Injective v.rename) (ref : ColumnRef)
    (h : ctx.scope? ref.source = none → ∀ s ∈ v.beyond, s.source ≠ ref.source) :
    (ctx.vary v).columnName (ref.rename v.rename) =
      (ctx.columnName ref).map (ColumnName.rename v.rename) := by
  unfold columnName
  rw [ColumnRef.rename, scope?_vary hv h]
  cases ctx.scope? ref.source with
  | none => rfl
  | some s =>
    have htable : (s.rename v.rename).table = s.table := rfl
    simp only [Option.map_some, htable]
    cases s.table.resolve ref.column <;> rfl

/-- An expression whose columns are spared keeps its storage class. -/
lemma inferType_vary (h : v.Spares e.columns) :
    (ctx.vary v).inferType (e.rename v.rename) = ctx.inferType e := by
  refine e.inferType_rename fun ref href => columnType_vary ⟨h.injective, ?_⟩
  exact List.forall_mem_singleton.mpr (h.unread ref href)

end Columns

end Context

/-- A widening is stripped from a renamed expression just if it is from the expression. -/
lemma stripWidening_vary {e : Expr} (h : v.Spares e.columns) :
    stripWidening (ctx.vary v) (e.rename v.rename) = (stripWidening ctx e).rename v.rename := by
  have htype : ∀ e', v.Spares (Expr.columns e') → (ctx.vary v).inferType
      ((stripWidening ctx e').rename v.rename) = ctx.inferType (stripWidening ctx e') :=
    fun e' h => Context.inferType_vary (by rwa [columns_stripWidening])
  fun_induction stripWidening ctx e with
  | case1 e ty inner source hsource hwidens ih =>
    simp only [Expr.rename, stripWidening, ih h, inner, htype e h, hsource, hwidens, if_true]
  | case2 e ty inner source hsource hwidens ih =>
    simp only [Expr.rename, stripWidening, ih h, inner, htype e h, hsource, hwidens,
      Bool.false_eq_true, if_false]
  | case3 e ty inner hsource ih =>
    simp only [Expr.rename, stripWidening, ih h, inner, htype e h, hsource]
  | case4 e hcast =>
    rw [stripWidening]
    intro e' ty he
    cases e with
    | cast e ty' implicit =>
      cases he
      exact hcast e ty rfl
    | _ => cases he

/-- A renamed conversion is a widening just if the conversion is. -/
lemma isWidening_vary {e : Expr} {ty : ColumnType} {implicit : Bool} (h : v.Spares e.columns) :
    isWidening (ctx.vary v) (e.rename v.rename) ty implicit = isWidening ctx e ty implicit := by
  have htype : (ctx.vary v).inferType ((stripWidening ctx e).rename v.rename) =
      ctx.inferType (stripWidening ctx e) :=
    Context.inferType_vary (by rwa [columns_stripWidening])
  rw [isWidening, stripWidening_vary h, htype, isWidening]

namespace Context

/-- A query reads none of the rows around it if none of its columns is theirs. -/
lemma isCorrelated_eq_false_iff :
    ctx.isCorrelated q = false ↔
      ∀ ref ∈ q.leaves.filterMap Leaf.column?, ∀ s ∈ ctx.scopes, s.source ≠ ref.source := by
  have hq : q.leaves = optionLeaves q.predicate := by cases q; rfl
  rw [isCorrelated, hq]
  cases q.predicate with
  | none => exact iff_of_true rfl (List.forall_mem_nil _)
  | some p =>
    simp only [List.any_eq_false, Expr.references, List.any_eq_true, beq_iff_eq, not_exists,
      not_and]
    exact ⟨fun h ref href s hs hsource => h s hs ref href hsource.symm,
      fun h s hs ref href hsource => h ref href s hs hsource.symm⟩

/-- A query reads the rows around it that it has read, and no further row. -/
lemma isCorrelated_vary (h : v.Spares (q.leaves.filterMap Leaf.column?)) :
    (ctx.vary v).isCorrelated (q.rename v.rename) = ctx.isCorrelated q := by
  refine Bool.eq_iff_iff.mpr (not_iff_not.mp ?_)
  rw [Bool.not_eq_true, Bool.not_eq_true, isCorrelated_eq_false_iff, isCorrelated_eq_false_iff,
    q.leaves_rename, columns_map_rename]
  simp only [List.forall_mem_map, scopes_vary, List.forall_mem_append]
  refine forall₂_congr fun ref href => ?_
  have hown : ∀ s : Scope, (s.rename v.rename).source ≠ (ref.rename v.rename).source ↔
      s.source ≠ ref.source := fun s => h.injective.ne_iff
  simp only [hown]
  exact and_iff_left (h.unread ref href)

/-- A varied place reads the table of a query if it did, or if a row further out does. -/
lemma readsTableOf_vary :
    (ctx.vary v).readsTableOf (q.rename v.rename) =
      (ctx.readsTableOf q || v.beyond.any fun s => s.table.name == q.table.name) := by
  simp only [readsTableOf, scopes_vary, List.any_map, List.any_append, Function.comp_def,
    Scope.rename, Query.rename_table]

/-- A membership query in a varied place is entered as in the place. -/
lemma inside_vary (h : v.Spares (q.leaves.filterMap Leaf.column?)) :
    (ctx.vary v).inside (q.rename v.rename) = (ctx.inside q).vary v := by
  rw [inside, isCorrelated_vary h, enter_vary]
  rfl

end Context

end TableQuery.Sql
