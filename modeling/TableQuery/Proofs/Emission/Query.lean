import TableQuery.Proofs.Emission.Forms
import TableQuery.Proofs.Emission.Sites

/-!
# The trees of queries

The statement of a query is written as it should be and binds what its filter has bound, if the
filter does (`Select.of_carries`), and so is a test for membership in a query or for the existence
of a row.

The columns satisfy a condition if the names of all columns that are read satisfy it where they
stand (`Admits`).
-/

namespace TableQuery.Sql

/-- The tables around the innermost one. -/
def Context.outerFroms (ctx : Context) : List From :=
  ctx.outer.map fun s => ⟨s.table.name, s.source⟩

/-- Whether the names of columns satisfy a condition on the tables they can be read from. -/
def Admits (ok : List From → ColumnName → Prop) (sites : List Site) : Prop :=
  ∀ s ∈ sites, ∀ c, s.place.columnName s.ref = .ok c → ok s.place.froms c

variable {ok : List From → ColumnName → Prop}

/-- The names of columns of two lists satisfy a condition if those of each list do. -/
lemma admits_append {us vs : List Site} : Admits ok (us ++ vs) ↔ Admits ok us ∧ Admits ok vs := by
  simp only [Admits, List.mem_append, or_imp, forall_and]

/-- All names may be used. -/
lemma admits_true (sites : List Site) : Admits (fun _ _ => True) sites := fun _ _ _ _ => trivial

/-- What a query reads: columns of its own row, and what its filter reads. -/
lemma querySites_eq (q : Query) (ctx : Context) :
    querySites q ctx =
      q.listedColumns.map (fun i => ⟨ctx, ⟨q.source, i⟩⟩) ++ optionSites q.predicate ctx := by
  cases q
  rfl

/-- The columns of a query itself may be used. -/
lemma Admits.own {q : Query} {ctx : Context} (h : Admits ok (querySites q ctx)) {i : Nat}
    (hi : i ∈ q.listedColumns) {c : ColumnName} (hc : ctx.columnName ⟨q.source, i⟩ = .ok c) :
    ok ctx.froms c := by
  rw [querySites_eq, admits_append] at h
  exact h.1 ⟨ctx, ⟨q.source, i⟩⟩ (List.mem_map_of_mem hi) c hc

/-- A statement is written as it should be and binds just these values. -/
def Select.Carries (ok : List From → ColumnName → Prop) (chain : List From) (d : Dialect)
    (s : Select) (vs : List Value) : Prop :=
  s.Written ok chain ∧ boundValues (s.pieces d) = vs

section Bound

variable {d : Dialect}

/-- What binds nothing binds nothing with separators. -/
lemma boundValues_separated {s : String} {pss : List (List Piece)}
    (h : ∀ ps ∈ pss, boundValues ps = []) : boundValues (separated s pss) = [] := by
  induction pss with
  | nil => rfl
  | cons ps pss ih =>
    have hps := h ps List.mem_cons_self
    have hpss := ih fun qs hqs => h qs (List.mem_cons_of_mem ps hqs)
    cases pss with
    | nil => exact hps
    | cons qs qss => simp [separated, hps, hpss]

/-- A column binds nothing. -/
lemma boundValues_column (c : ColumnName) : boundValues c.pieces = [] := by
  obtain ⟨qualifier, name, row⟩ := c
  cases qualifier <;> rfl

/-- What a statement returns binds nothing. -/
lemma boundValues_output (o : Output) : boundValues o.pieces = [] := by
  cases o with
  | columns names =>
    refine boundValues_separated ?_
    intro ps hps
    obtain ⟨c, -, rfl⟩ := List.mem_map.mp hps
    exact boundValues_column c
  | _ => rfl

/-- What a statement sorts by binds nothing. -/
lemma boundValues_order (order : List OrderTerm) :
    boundValues (separated ", " (order.map OrderTerm.pieces)) = [] := by
  refine boundValues_separated ?_
  intro ps hps
  obtain ⟨t, -, rfl⟩ := List.mem_map.mp hps
  simp [OrderTerm.pieces, boundValues_column]

/-- The window of a statement binds nothing. -/
lemma boundValues_limit (l : Limit) : boundValues l.pieces = [] := by
  cases l with
  | none => rfl
  | limitOffset count skipped => cases skipped <;> rfl
  | offsetFetch skipped fetched => cases fetched <;> rfl

/-- The conditions of a statement bind what the first binds and then what the others bind. -/
lemma boundValues_filters (c : Cond) (cs : List Cond) :
    boundValues (filterPieces d (c :: cs)) =
      boundValues (c.pieces d) ++ boundValues (filterPieces d cs) := by
  cases cs with
  | nil => simp [filterPieces, furtherFilters]
  | cons b bs => simp [filterPieces, furtherFilters]

/-- What a statement binds is what its conditions bind, after those of a statement that it reads. -/
lemma boundValues_select (s : Select) :
    boundValues (s.pieces d) =
      boundValues (s.source.pieces d) ++ boundValues (filterPieces d s.filters) := by
  obtain ⟨distinct, top, output, source, filters, order, limit⟩ := s
  have hdistinct : boundValues (if distinct then [.word "DISTINCT "] else []) = [] := by
    cases distinct <;> rfl
  have horder : boundValues (if order.isEmpty then []
      else .word " ORDER BY " :: separated ", " (order.map OrderTerm.pieces)) = [] := by
    split
    · rfl
    · exact boundValues_order order
  cases top with
  | none =>
    simp only [Select.pieces, boundValues_append, hdistinct, horder, boundValues_output,
      boundValues_limit]
    simp
  | some n =>
    simp only [Select.pieces, boundValues_append, hdistinct, horder, boundValues_output,
      boundValues_limit]
    simp

end Bound

section Statements

variable {ctx : Context} {chain : List From} {d : Dialect}

/-- The conditions of a statement are written as they should be and bind what their steps have
bound. -/
lemma presentConditions_gives {cs : List (Option (Emit Cond))}
    (h : ∀ o ∈ cs, ∀ c ∈ o, c.Gives (Cond.Carries ok chain d)) :
    (presentConditions cs).Gives fun xs vs =>
      filtersWritten ok chain xs ∧ boundValues (filterPieces d xs) = vs := by
  induction cs with
  | nil => exact .done ⟨trivial, rfl⟩
  | cons o cs ih =>
    have hcs := ih fun o ho => h o (List.mem_cons_of_mem _ ho)
    cases o with
    | none => exact hcs
    | some c =>
      refine (h (some c) List.mem_cons_self c rfl).bind ?_
      rintro x us ⟨hxs, hxw, hxb⟩
      refine hcs.bind ?_
      rintro xs ws ⟨hxsw, hxsb⟩
      refine .pure ⟨⟨⟨hxs, hxw⟩, hxsw⟩, ?_⟩
      rw [boundValues_filters, hxb, hxsb, List.append_nil]

/-- What a function gives for some elements, it gives for one of them. -/
lemma mem_of_mapM_ok {α β : Type} {f : α → Except Error β} {xs : List α} {ys : List β}
    (h : xs.mapM f = .ok ys) : ∀ y ∈ ys, ∃ x ∈ xs, f x = .ok y := by
  induction xs generalizing ys with
  | nil =>
    cases h
    simp
  | cons x xs ih =>
    rw [List.mapM_cons] at h
    obtain ⟨y, hx, h⟩ := ok_of_bind h
    obtain ⟨ys', hxs, h⟩ := ok_of_bind h
    cases h
    intro z hz
    cases hz with
    | head => exact ⟨x, List.mem_cons_self, hx⟩
    | tail _ hz =>
      obtain ⟨w, hw, hfw⟩ := ih hxs z hz
      exact ⟨w, List.mem_cons_of_mem x hw, hfw⟩

/-- A function that succeeds for each element succeeds for all. -/
lemma exists_mapM_ok {α β : Type} {f : α → Except Error β} {xs : List α}
    (h : ∀ x ∈ xs, ∃ y, f x = .ok y) : ∃ ys, xs.mapM f = .ok ys := by
  induction xs with
  | nil => exact ⟨[], rfl⟩
  | cons x xs ih =>
    obtain ⟨⟨y, hy⟩, hxs⟩ := List.forall_mem_cons.mp h
    obtain ⟨ys, hys⟩ := ih hxs
    refine ⟨y :: ys, ?_⟩
    rw [List.mapM_cons, hy]
    simp only [Bind.bind, Except.bind, hys]
    rfl

/-- A function that succeeds for all elements succeeds for each. -/
lemma ok_of_mapM_ok {α β : Type} {f : α → Except Error β} {xs : List α} {ys : List β}
    (h : xs.mapM f = .ok ys) : ∀ x ∈ xs, ∃ y, f x = .ok y := by
  induction xs generalizing ys with
  | nil => exact List.forall_mem_nil _
  | cons x xs ih =>
    rw [List.mapM_cons] at h
    obtain ⟨y, hy, h⟩ := ok_of_bind h
    obtain ⟨ys', hys, -⟩ := ok_of_bind h
    exact List.forall_mem_cons.mpr ⟨⟨y, hy⟩, ih hys⟩

/-- Only for no elements does a function give nothing. -/
lemma eq_nil_of_mapM_ok {α β : Type} {f : α → Except Error β} {xs : List α}
    (h : xs.mapM f = .ok []) : xs = [] := by
  cases xs with
  | nil => rfl
  | cons x xs =>
    rw [List.mapM_cons] at h
    obtain ⟨y, -, h⟩ := ok_of_bind h
    obtain ⟨ys, -, h⟩ := ok_of_bind h
    cases h

/-- What a statement can return: the number of rows for a terminal that counts, and otherwise a one
for each row, all columns, or some of them. -/
lemma Output.of_cases {q : Query} {o : Output} (h : Output.of ctx q = .ok o) :
    (q.terminal.isCount = true ∧ o = .count (countsBig ctx.dialect q.terminal)) ∨ o = .one ∨
      o = .all ∨ ∃ names, o = .columns names ∧ names ≠ [] ∧
        q.projection.mapM (fun i => ctx.columnName ⟨q.source, i⟩) = .ok names := by
  unfold Output.of at h
  split at h
  case isTrue hcount =>
    cases h
    exact .inl ⟨hcount, rfl⟩
  case isFalse =>
    split at h
    · cases h
      exact .inr (.inl rfl)
    · split at h
      · cases h
        exact .inr (.inr (.inl rfl))
      case isFalse hprojection =>
        obtain ⟨names, hm, h⟩ := ok_of_bind h
        cases h
        refine .inr (.inr (.inr ⟨names, rfl, ?_, hm⟩))
        rintro rfl
        exact hprojection (List.isEmpty_iff.mpr (eq_nil_of_mapM_ok hm))

/-- The columns that a statement returns are columns of the query. -/
lemma Output.of_names {q : Query} {o : Output} (hq : Admits ok (querySites q ctx))
    (h : Output.of ctx q = .ok o) : ∀ c ∈ o.names, ok ctx.froms c := by
  obtain ⟨-, rfl⟩ | rfl | rfl | ⟨names, rfl, -, hm⟩ := Output.of_cases h
  · exact List.forall_mem_nil _
  · exact List.forall_mem_nil _
  · exact List.forall_mem_nil _
  · intro c hc
    obtain ⟨i, hi, hic⟩ := mem_of_mapM_ok hm c hc
    have hown : i ∈ q.listedColumns := by
      simp only [Query.listedColumns, List.mem_append]
      exact .inl (.inl hi)
    exact hq.own hown hic

/-- The sort keys of a statement are columns of the query's own row. -/
lemma OrderTerm.column_of {q : Query} {keys : List SortKey} {order : List OrderTerm}
    (h : keys.mapM (OrderTerm.of ctx q) = .ok order) :
    ∀ t ∈ order, ∃ k ∈ keys, ctx.columnName ⟨q.source, k.column⟩ = .ok t.column := by
  intro t ht
  obtain ⟨k, hk, hkt⟩ := mem_of_mapM_ok h t ht
  obtain ⟨c, hc, hkt⟩ := ok_of_bind hkt
  cases hkt
  exact ⟨k, hk, hc⟩

/-- The columns that a statement sorts by are columns of the query. -/
lemma OrderTerm.of_columns {q : Query} {keys : List SortKey} {order : List OrderTerm}
    (hq : Admits ok (querySites q ctx)) (hkeys : q.sortKeys = .ok keys)
    (h : keys.mapM (OrderTerm.of ctx q) = .ok order) : ∀ t ∈ order, ok ctx.froms t.column := by
  intro t ht
  obtain ⟨k, hk, hc⟩ := OrderTerm.column_of h t ht
  exact hq.own (Query.listedColumns_of_sortKeys hkeys k hk) hc

/-- The tables that can be read in a query are its own and those around it. -/
lemma froms_eq {q : Query} (hq : ctx.row = Scope.of q) :
    ctx.froms = ⟨q.table.name, q.source⟩ :: ctx.outerFroms := by
  simp [Context.froms, Context.scopes, hq, Scope.of, Context.outerFroms]

/-- The statement of a query that is not counted by way of another. -/
lemma Select.direct_carries {q : Query} {filter : Option (Emit Cond)}
    (hrow : ctx.row = Scope.of q) (hq : Admits ok (querySites q ctx))
    (hf : ∀ c ∈ filter, c.Gives (Cond.Carries ok ctx.froms ctx.dialect)) :
    (Select.direct ctx q filter).Gives (Select.Carries ok ctx.outerFroms ctx.dialect) := by
  unfold Select.direct
  refine .lift_bind fun keys hkeys => .lift_bind fun output houtput => ?_
  have hnames := Output.of_names hq houtput
  have hfilters : ∀ o ∈ [filter], ∀ c ∈ o, c.Gives (Cond.Carries ok ctx.froms ctx.dialect) := by
    intro o ho
    cases List.mem_singleton.mp ho
    exact hf
  refine (presentConditions_gives hfilters).bind ?_
  rintro filters us ⟨hfw, hfb⟩
  refine .lift_bind fun order horder => ?_
  have horder := OrderTerm.of_columns hq hkeys horder
  rw [froms_eq hrow] at hnames hfw horder
  refine .pure ⟨⟨hnames, trivial, hfw, horder⟩, ?_⟩
  rw [boundValues_select, hfb]
  simp [Source.pieces]

/-- The statement of a query. -/
theorem Select.of_carries {q : Query} {filter : Option (Emit Cond)}
    (hrow : ctx.row = Scope.of q) (hq : Admits ok (querySites q ctx))
    (hf : ∀ c ∈ filter, c.Gives (Cond.Carries ok ctx.froms ctx.dialect)) :
    (Select.of ctx q filter).Gives (Select.Carries ok ctx.outerFroms ctx.dialect) := by
  unfold Select.of
  split
  case isTrue =>
    have hq' : Admits ok (querySites { q with terminal := .sequence } ctx) := by
      rw [querySites_eq] at hq ⊢
      exact hq
    have hrows := Select.direct_carries (q := { q with terminal := .sequence }) hrow hq' hf
    refine hrows.bind ?_
    rintro rows us ⟨hrw, hrb⟩
    refine .pure ⟨⟨?_, hrw, trivial, ?_⟩, ?_⟩
    · simp [Output.names]
    · simp
    · rw [boundValues_select]
      simp [Select.counting, Source.pieces, filterPieces, hrb]
  case isFalse => exact Select.direct_carries hrow hq hf

/-- Membership in a query.  The filter need only be as it should be where the query may stand. -/
lemma subqueryMembership_carries {q : Query} {operand : Emit Scalar}
    {filter : Option (Emit Cond)}
    (hx : operand.Gives (Scalar.Carries ok ctx.froms ctx.dialect))
    (hq : (ctx.isCorrelated q && ctx.readsTableOf q) = false →
      Admits ok (querySites q (ctx.inside q)))
    (hf : (ctx.isCorrelated q && ctx.readsTableOf q) = false →
      ∀ c ∈ filter, c.Gives (Cond.Carries ok (ctx.inside q).froms ctx.dialect)) :
    (subqueryMembership ctx q operand filter).Gives (Cond.Carries ok ctx.froms ctx.dialect) := by
  unfold subqueryMembership
  split
  · exact .fail
  · split
    · exact .fail
    · refine hx.bind ?_
      rintro x us ⟨hxp, hxw, hxb⟩
      split
      · exact .fail
      case isFalse hfree =>
        have hfree := Bool.eq_false_iff.mpr hfree
        have hrow : (ctx.inside q).row = Scope.of q := rfl
        have hselect := Select.of_carries hrow (hq hfree) (hf hfree)
        refine hselect.bind ?_
        rintro s ws ⟨hsw, hsb⟩
        refine .pure ⟨rfl, ⟨⟨Scalar.isSingle_of_isPrimary hxp, hxw⟩, hsw⟩, ?_⟩
        have hsb : boundValues (s.pieces ctx.dialect) = ws := hsb
        simp [Cond.pieces, hxb, hsb]

/-- Whether a query has a row.  The conditions need only be as they should be where the query may
stand. -/
lemma existence_carries {q : Query} {filter condition : Option (Emit Cond)}
    (hf : ctx.readsTableOf q = false → ∀ c ∈ filter,
      c.Gives (Cond.Carries ok (ctx.enter q true).froms ctx.dialect))
    (hc : ctx.readsTableOf q = false → ∀ c ∈ condition,
      c.Gives (Cond.Carries ok (ctx.enter q true).froms ctx.dialect)) :
    (existence ctx q filter condition).Gives (Cond.Carries ok ctx.froms ctx.dialect) := by
  unfold existence
  split
  · exact .fail
  · split
    · exact .fail
    · split
      · exact .fail
      case isFalse hfree =>
        -- Past the three refusals, so the conditions may be used.
        have hfree := Bool.eq_false_iff.mpr hfree
        have hall : ∀ o ∈ [filter, condition], ∀ c ∈ o,
            c.Gives (Cond.Carries ok (ctx.enter q true).froms ctx.dialect) := by
          intro o ho
          cases ho with
          | head => exact hf hfree
          | tail _ ho =>
            cases List.mem_singleton.mp ho
            exact hc hfree
        refine (presentConditions_gives hall).bind ?_
        rintro filters us ⟨hfw, hfb⟩
        refine .pure ⟨rfl, ⟨?_, trivial, hfw, ?_⟩, ?_⟩
        · simp [Output.names]
        · simp
        · simp [Cond.pieces, boundValues_select, Source.pieces, hfb]

end Statements

end TableQuery.Sql
