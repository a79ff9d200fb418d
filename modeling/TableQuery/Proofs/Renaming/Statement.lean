import TableQuery.Proofs.Family.Query
import TableQuery.Proofs.Renaming.Place

/-!
# Statements in other places

The names of rows leave no trace in the text of a statement, and the columns of a query's own row
are the same in all places.  So the statement of a query has the same pieces in all places in which
its filter has the same pieces (`Select.of_vary`).
-/

namespace TableQuery

/-- Renaming keeps the sort keys. -/
lemma Query.sortKeys_rename (f : SourceId → SourceId) (q : Query) :
    (q.rename f).sortKeys = q.sortKeys := by
  simp only [Query.sortKeys, Query.isPaged, Query.rename_table, Query.rename_orderings,
    Query.rename_skip, Query.rename_take, Query.rename_terminal]

namespace Sql

open Emit (Uniform)

variable {W : Type} {α β : Type} {ctx : Context} {v : Variation} {q : Query}

/-- The pieces of a family do not vary. -/
def Fixed (ps : W → List Piece) : Prop := ∀ w w', ps w = ps w'

/-- Pieces that do not vary are put together to pieces that do not vary. -/
lemma stable_fixed (d : Dialect) : Stable d (Fixed (W := W)) where
  nil _ _ := rfl
  append hu hv w w' := congrArg₂ List.append (hu w w') (hv w w')
  word _ _ _ := rfl
  literal _ _ _ := rfl
  param _ _ _ := rfl

/-- Steps that bind nothing and give what a common step gives, each in its own way. -/
lemma lift_map_uniform {r : Except Error β} {s : W → Except Error α} {g : W → β → α}
    (h : ∀ w, s w = r.map (g w)) :
    Uniform (fun w => Emit.lift (s w)) fun a => ∃ b, a = fun w => g w b := by
  simp only [h]
  cases r with
  | error err => exact .inl ⟨err, fun _ => rfl⟩
  | ok b => exact .inr ⟨fun w => g w b, fun _ => rfl, b, rfl⟩

/-- What a statement returns, with the rows renamed. -/
def Output.rename (f : SourceId → SourceId) : Output → Output
  | .columns names => .columns (names.map (ColumnName.rename f))
  | o => o

/-- A sort key with its row renamed. -/
def OrderTerm.rename (f : SourceId → SourceId) (t : OrderTerm) : OrderTerm :=
  { t with column := t.column.rename f }

/-- What a statement returns is written without the names of rows. -/
lemma Output.pieces_rename (f : SourceId → SourceId) (o : Output) :
    (o.rename f).pieces = o.pieces := by
  cases o with
  | columns names =>
    simp only [rename, pieces, List.map_map]
    rfl
  | _ => rfl

/-- What a statement sorts by is written without the names of rows. -/
lemma OrderTerm.pieces_rename (f : SourceId → SourceId) (ts : List OrderTerm) :
    (ts.map (OrderTerm.rename f)).map OrderTerm.pieces = ts.map OrderTerm.pieces := by
  rw [List.map_map]
  rfl

/-- Elements that give the images of what others give. -/
lemma mapM_map {γ : Type} {f : γ → Except Error α} {g : γ → Except Error β} {h : β → α}
    (xs : List γ) (hfg : ∀ x ∈ xs, f x = (g x).map h) :
    xs.mapM f = (xs.mapM g).map (List.map h) := by
  induction xs with
  | nil => rfl
  | cons x xs ih =>
    obtain ⟨hx, hxs⟩ := List.forall_mem_cons.mp hfg
    rw [List.mapM_cons, List.mapM_cons, hx, ih hxs]
    cases g x with
    | error err => rfl
    | ok b => cases xs.mapM g <;> rfl

/-- A column of the query's own row. -/
lemma Context.ownColumn_vary (hv : Function.Injective v.rename) (hrow : ctx.row = Scope.of q)
    (i : Nat) : (ctx.vary v).columnName ⟨(q.rename v.rename).source, i⟩ =
      (ctx.columnName ⟨q.source, i⟩).map (ColumnName.rename v.rename) := by
  rw [Query.rename_source]
  refine Context.columnName_vary hv ⟨q.source, i⟩ fun hnone => ?_
  have hfound : ctx.scope? q.source = some (Scope.of q) := by
    rw [scope?, scopes, hrow]
    exact List.find?_cons_of_pos (beq_self_eq_true q.source)
  cases hfound.symm.trans hnone

/-- What a renamed query returns is what the query returns, renamed. -/
lemma Output.of_vary (hv : Function.Injective v.rename) (hrow : ctx.row = Scope.of q) :
    Output.of (ctx.vary v) (q.rename v.rename) =
      (Output.of ctx q).map (Output.rename v.rename) := by
  have hdialect : (ctx.vary v).dialect = ctx.dialect := rfl
  have hnames := mapM_map q.projection fun i _ => Context.ownColumn_vary hv hrow i
  unfold Output.of
  rw [Query.rename_terminal, Query.rename_projection, hdialect]
  split
  · rfl
  split
  · rfl
  split
  · rfl
  · rw [hnames]
    cases q.projection.mapM fun i => ctx.columnName ⟨q.source, i⟩ <;> rfl

/-- What a renamed query sorts by is what the query sorts by, renamed. -/
lemma OrderTerm.of_vary (hv : Function.Injective v.rename) (hrow : ctx.row = Scope.of q)
    (keys : List SortKey) :
    keys.mapM (OrderTerm.of (ctx.vary v) (q.rename v.rename)) =
      (keys.mapM (OrderTerm.of ctx q)).map (List.map (OrderTerm.rename v.rename)) := by
  refine mapM_map keys fun k _ => ?_
  unfold OrderTerm.of
  rw [Context.ownColumn_vary hv hrow]
  cases ctx.columnName ⟨q.source, k.column⟩ <;> rfl

section Families

variable {vs : W → Variation} {f g : W → Option (Emit Cond)}

/-- The statement of a query that is not counted by way of another. -/
lemma Select.direct_vary (hvs : ∀ w, Function.Injective (vs w).rename)
    (hrow : ctx.row = Scope.of q) (hf : UniformFilter ctx.dialect Fixed f) :
    Uniform (fun w => Select.direct (ctx.vary (vs w)) (q.rename (vs w).rename) (f w))
      (Selects ctx.dialect Fixed) := by
  have houtput := fun w => Output.of_vary (hvs w) hrow
  have htake : ∀ r, (q.rename r).effectiveTake = q.effectiveTake := by
    intro r
    rw [Query.effectiveTake, Query.rename_take, Query.rename_terminal, Query.effectiveTake]
  unfold Select.direct
  simp only [q.sortKeys_rename]
  refine .lift_bind fun keys _ => ?_
  have horder := fun w => OrderTerm.of_vary (hvs w) hrow keys
  refine (lift_map_uniform houtput).bind ?_
  rintro _ ⟨o, rfl⟩
  refine (presentConditions_uniform [f] (List.forall_mem_singleton.mpr hf)).bind ?_
  rintro _ ⟨cs, rfl, hcs⟩
  refine (lift_map_uniform horder).bind ?_
  rintro _ ⟨ts, rfl⟩
  have hfilters := (stable_fixed ctx.dialect).filters hcs
  refine .pure fun w w' => ?_
  simp only [Select.pieces, Source.pieces, Output.pieces_rename, OrderTerm.pieces_rename,
    List.isEmpty_map, htake, Query.rename_distinct, Query.rename_terminal, Query.rename_skip,
    Query.rename_table, hfilters w w']
  rfl

/-- The statement of a query. -/
theorem Select.of_vary (hvs : ∀ w, Function.Injective (vs w).rename)
    (hrow : ctx.row = Scope.of q) (hf : UniformFilter ctx.dialect Fixed f) :
    Uniform (fun w => Select.of (ctx.vary (vs w)) (q.rename (vs w).rename) (f w))
      (Selects ctx.dialect Fixed) := by
  have hcounted : ∀ r, ((q.rename r).terminal.isCount &&
      ((q.rename r).isPaged || (q.rename r).distinct)) =
        (q.terminal.isCount && (q.isPaged || q.distinct)) := by
    intro r
    cases q
    rfl
  unfold Select.of
  simp only [hcounted]
  refine .ite ?_ (Select.direct_vary hvs hrow hf)
  -- The counted rows are those of the query without its terminal, which renaming does not touch.
  have hrows : Uniform (fun w => Select.direct (ctx.vary (vs w))
      ({ q with terminal := .sequence }.rename (vs w).rename) (f w)) (Selects ctx.dialect Fixed) :=
    Select.direct_vary hvs hrow hf
  have hterminal : ∀ r, { q.rename r with terminal := .sequence } =
      ({ q with terminal := .sequence } : Query).rename r := by
    intro r
    cases q
    rfl
  have hdialect : ∀ w, (ctx.vary (vs w)).dialect = ctx.dialect := fun _ => rfl
  simp only [hterminal, Query.rename_terminal, hdialect]
  have h := stable_fixed (W := W) ctx.dialect
  refine hrows.bind fun s hs => .pure ?_
  exact h.select (List.forall_mem_nil _) (h.derived hs fun _ _ => rfl) h.nil
    (List.forall_mem_nil _)

/-- Membership in a query, where the query may stand in all places or in none. -/
lemma subqueryMembership_vary {x : W → Emit Scalar} {refused : Bool}
    (hvs : ∀ w, (vs w).Spares (q.leaves.filterMap Leaf.column?))
    (hx : Uniform x (Scalars ctx.dialect Fixed))
    (hrefused : ∀ w, (ctx.isCorrelated q &&
      (ctx.vary (vs w)).readsTableOf (q.rename (vs w).rename)) = refused)
    (hf : refused = false → UniformFilter ctx.dialect Fixed f) :
    Uniform (fun w => subqueryMembership (ctx.vary (vs w)) (q.rename (vs w).rename) (x w) (f w))
      (Conds ctx.dialect Fixed) := by
  have hplace : ∀ w, (ctx.vary (vs w)).isCorrelated (q.rename (vs w).rename) =
      ctx.isCorrelated q := fun w => Context.isCorrelated_vary (hvs w)
  have hinside : ∀ w, (ctx.vary (vs w)).inside (q.rename (vs w).rename) =
      (ctx.inside q).vary (vs w) := fun w => Context.inside_vary (hvs w)
  unfold subqueryMembership
  simp only [Query.rename_projection, Query.rename_terminal, Query.rename_table, hplace, hrefused,
    hinside]
  refine .ite .fail (.ite .fail (hx.bind fun x hx => ?_))
  cases refused with
  | true => exact .fail
  | false =>
    have hselect : Uniform (fun w => Select.of ((ctx.inside q).vary (vs w))
        (q.rename (vs w).rename) (f w)) (Selects ctx.dialect Fixed) :=
      Select.of_vary (fun w => (hvs w).injective) rfl (hf rfl)
    have h := stable_fixed (W := W) ctx.dialect
    exact hselect.bind fun s hs => .pure (h.parenCond (h.inSelect hx hs))

/-- Whether a query has a row, where the query may stand in all places or in none. -/
lemma existence_vary {refused : Bool}
    (hrefused : ∀ w, (ctx.vary (vs w)).readsTableOf (q.rename (vs w).rename) = refused)
    (hf : refused = false → UniformFilter ctx.dialect Fixed f)
    (hg : refused = false → UniformFilter ctx.dialect Fixed g) :
    Uniform (fun w => existence (ctx.vary (vs w)) (q.rename (vs w).rename) (f w) (g w))
      (Conds ctx.dialect Fixed) := by
  unfold existence
  simp only [Query.isPaged, Query.rename_skip, Query.rename_take, Query.rename_terminal,
    Query.rename_table, hrefused]
  refine .ite .fail (.ite .fail ?_)
  cases refused with
  | true => exact .fail
  | false =>
    have hboth : ∀ o ∈ [f, g], UniformFilter ctx.dialect Fixed o :=
      List.forall_mem_cons.mpr ⟨hf rfl, List.forall_mem_singleton.mpr (hg rfl)⟩
    refine (presentConditions_uniform [f, g] hboth).bind ?_
    rintro _ ⟨cs, rfl, hcs⟩
    have h := stable_fixed (W := W) ctx.dialect
    refine .pure (h.exists ?_)
    exact h.select (List.forall_mem_nil _) (fun _ _ => rfl) (h.filters hcs) (List.forall_mem_nil _)

end Families

end Sql

end TableQuery
