import TableQuery.Proofs.Building.Result
import TableQuery.Proofs.Schema.Index
import TableQuery.Proofs.Sharing

/-!
# Chained filters

A query that is built by filters one after another is compiled to the conjunction of what the
filters are compiled to on their own (`compile_filters`).  Neither what a filter writes nor where it
fails depends on the filters before it: only the numbers of its parameters go on where those before
it ended.

This holds of two tests (`Expr.compile_and`) and so of any number of them, by induction from the
right, since filters are joined from the left.  The statement of a query with no more than a filter
adds a few words in front (`Query.compile_filtered`).
-/

namespace TableQuery

namespace Sql

/-- The conjunction of two statements that are conditions.  The parameters of the second are
numbered after those of the first. -/
def Statement.and (d : Dialect) (l r : Statement) : Statement where
  text := "(" ++ l.text ++ " and " ++ renumber d l.parameters.length r.text ++ ")"
  parameters := l.parameters ++ r.parameters

/-- The conjunction of several texts, joined from the left. -/
def conjoinedText : List String → String
  | [] => ""
  | t :: ts => ts.foldl (fun l r => "(" ++ l ++ " and " ++ r ++ ")") t

/-- The texts of several statements, where the parameters of each are numbered after those of the
statements before it. -/
def textsInTurn (d : Dialect) (sts : List Statement) : List String :=
  sts.mapIdx fun i st => renumber d ((sts.take i).flatMap Statement.parameters).length st.text

section Texts

variable {d : Dialect}

/-- One text more is joined to the conjunction of the others. -/
lemma conjoinedText_append_singleton {ts : List String} (h : ts ≠ []) (t : String) :
    conjoinedText (ts ++ [t]) = "(" ++ conjoinedText ts ++ " and " ++ t ++ ")" := by
  cases ts with
  | nil => exact absurd rfl h
  | cons u us => rw [List.cons_append, conjoinedText, List.foldl_append]; rfl

/-- The parameters of one statement more are numbered after those of all others. -/
lemma textsInTurn_append_singleton (sts : List Statement) (st : Statement) :
    textsInTurn d (sts ++ [st]) =
      textsInTurn d sts ++ [renumber d (sts.flatMap Statement.parameters).length st.text] := by
  rw [textsInTurn, List.mapIdx_append, textsInTurn]
  congr 1
  · refine List.ext_getElem (by simp) fun i hi hi' => ?_
    have hlt : i < sts.length := by simpa using hi'
    rw [List.getElem_mapIdx, List.getElem_mapIdx,
      List.take_append_of_le_length (Nat.le_of_lt hlt)]
  · simp

end Texts

section Tests

variable {d : Dialect} {q : Query} {l r e : Expr}

/-- A test over the row of a query is compiled to its condition. -/
lemma Expr.compile_test (htest : e.isPredicate = true) :
    e.compile d q = (formsOf e (Context.top d q)).condition.result.map fun c =>
      ⟨piecesText d 1 (c.pieces d), (formsOf e (Context.top d q)).condition.bound⟩ := by
  rw [Expr.compile, ofExpr, if_pos htest, Statement.of]
  cases h : (formsOf e (Context.top d q)).condition.result with
  | error err =>
    simp only [Bind.bind, Emit.andThen, h]
    rfl
  | ok c =>
    simp only [Bind.bind, Emit.andThen, h, Pure.pure, Emit.done, List.append_nil]
    rfl

/-- The pieces of a condition are read by themselves and have the values that it binds. -/
lemma condition_scans {ctx : Context} {c : Cond} (h : (formsOf e ctx).condition.result = .ok c) :
    Scans ctx.dialect (c.pieces ctx.dialect) ∧
      boundValues (c.pieces ctx.dialect) = (formsOf e ctx).condition.bound := by
  obtain ⟨-, hwritten, hbound⟩ := (formsOf_carry e ctx (admits_true _)).1 c h
  exact ⟨(Cond.prints c hwritten).scans, hbound⟩

/-- The conjunction of two tests, of which one reads a row, is that of their conditions. -/
lemma condition_and {ctx : Context} (hconst : l.isConst = false) :
    (formsOf (.binary .and l r) ctx).condition =
      logical .and (formsOf l ctx).condition (formsOf r ctx).condition := by
  have hwhole : (Expr.binary .and l r).isConst = false := by
    rw [Expr.isConst, hconst, Bool.false_and]
  rw [formsOf, Forms.unlessConstant, hwhole]
  rfl

/-- The conjunction of two tests is compiled to the conjunction of what they are compiled to. -/
theorem Expr.compile_and (hl : l.isPredicate = true) (hr : r.isPredicate = true)
    (hconst : l.isConst = false) :
    (Expr.binary .and l r).compile d q = (do
      let left ← l.compile d q
      return left.and d (← r.compile d q)) := by
  have hand : (Expr.binary .and l r).isPredicate = true := rfl
  rw [Expr.compile_test hand, Expr.compile_test hl, Expr.compile_test hr, condition_and hconst]
  cases hx : (formsOf l (Context.top d q)).condition.result with
  | error err =>
    rw [logical, Emit.result_bind, hx]
    rfl
  | ok x =>
    cases hy : (formsOf r (Context.top d q)).condition.result with
    | error err =>
      rw [logical, Emit.result_bind_ok hx, Emit.result_bind, hy]
      rfl
    | ok y =>
      have hxbound : boundValues (x.pieces d) = (formsOf l (Context.top d q)).condition.bound :=
        (condition_scans hx).2
      have hyscans : Scans d (y.pieces d) := (condition_scans hy).1
      have hcond : logical .and (formsOf l (Context.top d q)).condition
          (formsOf r (Context.top d q)).condition =
            ⟨(formsOf l (Context.top d q)).condition.bound ++
              (formsOf r (Context.top d q)).condition.bound, .ok (.paren (.and x y))⟩ := by
        simp only [logical, Bind.bind, Emit.andThen, hx, hy, Pure.pure, Emit.done, if_true,
          List.append_nil]
      -- The numbers in the second text begin after the values that the first one binds.
      have htext : piecesText d 1 ((Cond.paren (.and x y)).pieces d) =
          "(" ++ piecesText d 1 (x.pieces d) ++ " and " ++
            Sql.renumber d (formsOf l (Context.top d q)).condition.bound.length
              (piecesText d 1 (y.pieces d)) ++ ")" := by
        have hnumber := hyscans.renumber (formsOf l (Context.top d q)).condition.bound.length 1
        simp only [Cond.pieces, piecesText_word, piecesText_append, hxbound, hnumber]
        simp [piecesText, String.append_assoc]
      rw [hcond]
      simp only [Except.map, htext]
      rfl

/-- The text of a test is read with its parameters numbered from one. -/
lemma Expr.renumber_zero {st : Statement} (htest : e.isPredicate = true)
    (h : e.compile d q = .ok st) : renumber d 0 st.text = st.text := by
  rw [Expr.compile_test htest] at h
  cases hc : (formsOf e (Context.top d q)).condition.result with
  | error err =>
    rw [hc] at h
    cases h
  | ok c =>
    rw [hc] at h
    cases h
    have hscans : Scans d (c.pieces d) := (condition_scans hc).1
    exact (hscans.renumber 0 1).symm

/-- The statement of a query with a filter and nothing else has no part that can fail but the
filter. -/
lemma select_filtered (d : Dialect) (row : Query) (e : Expr) (t : Table) (s : SourceId)
    (x : Emit Cond) :
    Select.of (Context.top d row) { Query.all t s with predicate := some e } (some x) =
      ⟨x.bound, x.result.map fun c => ⟨false, none, .all, .table t.name s, [c], [], .none⟩⟩ := by
  obtain ⟨bound, result⟩ := x
  cases result with
  | error err => rfl
  | ok c =>
    have hbound : bound ++ [] ++ [] = bound := by simp only [List.append_nil]
    cases d <;> exact congrArg₂ Emit.mk hbound rfl

/-- A query with a filter and nothing else is compiled to what the filter is compiled to, after a
few words. -/
lemma Query.compile_filtered {t : Table} {s : SourceId} (htest : e.isPredicate = true)
    (hq : q = { Query.all t s with predicate := some e }) :
    q.compile d = (e.compile d q).map fun st =>
      ⟨"SELECT * FROM " ++ d.quoteIdentifier t.name ++ " WHERE " ++ st.text, st.parameters⟩ := by
  rw [Expr.compile_test htest, Query.compile, ofQuery, Statement.of]
  have hselect : Select.of (Context.top d q) q (queryFilter q (Context.top d q)) =
      ⟨(formsOf e (Context.top d q)).condition.bound,
        (formsOf e (Context.top d q)).condition.result.map fun c =>
          ⟨false, none, .all, .table t.name s, [c], [], .none⟩⟩ := by
    rw [← select_filtered d q e t s]
    subst hq
    rfl
  simp only [Bind.bind, Emit.andThen, hselect]
  cases hc : (formsOf e (Context.top d q)).condition.result with
  | error err => rfl
  | ok c =>
    simp only [Except.map, Pure.pure, Emit.done, List.append_nil]
    have htext : piecesText d 1 (Fragment.pieces d
        (.select ⟨false, none, .all, .table t.name s, [c], [], .none⟩)) =
          "SELECT * FROM " ++ d.quoteIdentifier t.name ++ " WHERE " ++
            piecesText d 1 (c.pieces d) := by
      have hwords : "SELECT * FROM " = "SELECT " ++ "*" ++ " FROM " := rfl
      rw [hwords]
      simp only [Fragment.pieces, Select.pieces, Output.pieces, Source.pieces, filterPieces,
        furtherFilters, Limit.pieces]
      simp [-String.reduceAppend, piecesText, Piece.text, Piece.value?, String.append_assoc]
    rw [htext]

end Tests

section Chains

variable {d : Dialect} {q : Query} {p e : Expr} {ps before after : List Expr}
  {sts : List Statement} {err : Error}

/-- A test of a row: a test that is no constant. -/
def IsRowTest (e : Expr) : Prop := e.isPredicate = true ∧ e.isConst = false

/-- The conjunction of tests of a row is one. -/
lemma testsRow_conjunction (h : ∀ p ∈ ps, IsRowTest p) (he : conjunction? ps = some e) :
    IsRowTest e := by
  induction ps using List.reverseRecOn generalizing e with
  | nil => cases he
  | append_singleton init p ih =>
    obtain ⟨hinit, hp⟩ := List.forall_mem_append.mp h
    rw [conjunction?_append_singleton, Option.some.injEq] at he
    subst he
    cases hl : conjunction? init with
    | none => exact hp p List.mem_cons_self
    | some l =>
      refine ⟨rfl, ?_⟩
      have hconst := (ih hinit hl).2
      simp only [Option.elim_some, Expr.isConst, hconst, Bool.false_and]

/-- The conjunction of tests is compiled to the conjunction of what they are compiled to one after
another, where the parameters of each are numbered after those of the tests before it. -/
lemma compile_conjunction (h : ∀ p ∈ ps, IsRowTest p) (he : conjunction? ps = some e) :
    e.compile d q = (do
      let sts ← ps.mapM fun p => p.compile d q
      return ⟨conjoinedText (textsInTurn d sts), sts.flatMap Statement.parameters⟩) := by
  -- From the end, since the conjunction is joined from the left.
  induction ps using List.reverseRecOn generalizing e with
  | nil => cases he
  | append_singleton init p ih =>
    obtain ⟨hinit, hp⟩ := List.forall_mem_append.mp h
    obtain ⟨htest, -⟩ := hp p List.mem_cons_self
    rw [conjunction?_append_singleton, Option.some.injEq] at he
    subst he
    rw [List.mapM_append, List.mapM_cons, List.mapM_nil]
    cases hl : conjunction? init with
    | none =>
      -- The first test stands alone, and its placeholders keep their numbers.
      obtain rfl : init = [] := by
        cases init with
        | nil => rfl
        | cons => cases hl
      cases hst : p.compile d q with
      | error err =>
        rw [Option.elim_none, hst]
        rfl
      | ok st =>
        rw [Option.elim_none, hst]
        have hzero := Expr.renumber_zero htest hst
        simp [textsInTurn, conjoinedText, hzero, Bind.bind, Except.bind, Pure.pure, Except.pure]
    | some l =>
      have hne : init ≠ [] := by
        rintro rfl
        cases hl
      obtain ⟨hltest, hlconst⟩ := testsRow_conjunction hinit hl
      rw [Option.elim_some, Expr.compile_and hltest htest hlconst, ih hinit hl]
      cases hsts : init.mapM fun p => p.compile d q with
      | error err => rfl
      | ok sts =>
        cases hst : p.compile d q with
        | error err => rfl
        | ok st =>
          have hsome : textsInTurn d sts ≠ [] := by
            rw [textsInTurn, ne_eq, List.mapIdx_eq_nil_iff]
            rintro rfl
            exact hne (eq_nil_of_mapM_ok hsts)
          have hall : (Statement.mk (conjoinedText (textsInTurn d sts))
              (sts.flatMap Statement.parameters)).and d st =
                ⟨conjoinedText (textsInTurn d (sts ++ [st])),
                  (sts ++ [st]).flatMap Statement.parameters⟩ := by
            rw [textsInTurn_append_singleton, conjoinedText_append_singleton hsome, Statement.and,
              List.flatMap_append, List.flatMap_singleton]
          exact congrArg Except.ok hall

/-- The first test that cannot be compiled is where compiling one after another fails. -/
lemma mapM_of_first {α β : Type} {f : α → Except Error β} {before after : List α} {a : α}
    {err : Error} (hbefore : ∀ a ∈ before, ∃ b, f a = .ok b) (ha : f a = .error err) :
    (before ++ a :: after).mapM f = .error err := by
  obtain ⟨bs, hbs⟩ := exists_mapM_ok hbefore
  rw [List.mapM_append, hbs, List.mapM_cons, ha]
  rfl

end Chains

section Filters

variable {t : Table} {s : SourceId} {p : Expr} {ps : List Expr}

/-- What a filter can be applied to, it can filter. -/
lemma filters_of_apply (h : ∃ q, (Query.all t s).apply ⟨"Where", [p]⟩ = .ok q) :
    p.Filters t s := by
  obtain ⟨q, h⟩ := h
  change (Query.all t s).applyMethod .filter ⟨"Where", [p]⟩ = _ at h
  obtain ⟨e, he, h⟩ := ok_of_bind h
  obtain ⟨⟨⟩, hcheck, -⟩ := ok_of_bind h
  cases Operation.onlyArg_eq_ok.mp he
  exact Query.checkFilter_eq_ok.mp hcheck

/-- Filters build the query with their conjunction. -/
lemma build_filters (h : ∀ p ∈ ps, p.Filters t s) :
    (Query.all t s).build (ps.map fun p => ⟨"Where", [p]⟩) =
      .ok { Query.all t s with predicate := conjunction? ps } := by
  have hopen : ∀ x ∈ ps.map Effect.filter, x.terminal? = none := by
    rw [List.forall_mem_map]
    exact fun p _ => rfl
  refine Query.build_eq_ok.mpr ⟨ps.map Effect.filter, ?_, ?_, ?_⟩
  · rw [List.forall₂_map_left_iff, List.forall₂_map_right_iff, List.forall₂_same]
    exact fun p hp => .filter (h p hp)
  · exact fun x hx => hopen x (List.dropLast_subset _ hx)
  · have hterminal : (((ps.map Effect.filter).getLast?).bind Effect.terminal?).getD .sequence =
        .sequence := Query.terminal_collected (t := t) (s := s) hopen
    rw [Query.collected, hterminal]
    simp [List.filterMap_map, Function.comp_def, Query.all]

end Filters

/-- Let a query be built by filters that are tests of a row.  Over the row of the query each filter
is compiled as over that of the table, and the statement of the query selects all rows that satisfy
the conjunction, joined from the left, of the statements of the filters, where the parameters of
each are numbered after those of the filters before it.  The query is compiled just if every filter
is, and otherwise fails as the first filter that is not. -/
theorem compile_filters (d : Dialect) (t : Table) (s : SourceId) {ps : List Expr} (hne : ps ≠ [])
    (htests : ∀ p ∈ ps, IsRowTest p)
    (hwhere : ∀ p ∈ ps, ∃ q, (Query.all t s).apply ⟨"Where", [p]⟩ = .ok q) :
    ∃ q, (Query.all t s).build (ps.map fun p => ⟨"Where", [p]⟩) = .ok q ∧
      (∀ p : Expr, p.compile d q = p.compile d (Query.all t s)) ∧
      q.compile d = (do
        let sts ← ps.mapM fun p => p.compile d q
        return {
          text := "SELECT * FROM " ++ d.quoteIdentifier t.name ++ " WHERE " ++
            conjoinedText (textsInTurn d sts)
          parameters := sts.flatMap Statement.parameters }) ∧
      ((∃ st, q.compile d = .ok st) ↔ ∀ p ∈ ps, ∃ st, p.compile d q = .ok st) ∧
      ∀ before p after err, ps = before ++ p :: after →
        (∀ p' ∈ before, ∃ st, p'.compile d q = .ok st) → p.compile d q = .error err →
          q.compile d = .error err := by
  -- Filters are joined as they are recorded, so their conjunction is what the query keeps.
  obtain ⟨e, he⟩ : ∃ e, conjunction? ps = some e := by
    cases ps with
    | nil => exact absurd rfl hne
    | cons p ps => exact ⟨_, rfl⟩
  have hbuild : (Query.all t s).build (ps.map fun p => ⟨"Where", [p]⟩) =
      .ok { Query.all t s with predicate := some e } := by
    rw [← he]
    exact build_filters fun p hp => filters_of_apply (hwhere p hp)
  refine ⟨_, hbuild, fun _ => rfl, ?_⟩
  generalize hq : ({ Query.all t s with predicate := some e } : Query) = q
  have hcompile : q.compile d = (do
      let sts ← ps.mapM fun p => p.compile d q
      return {
        text := "SELECT * FROM " ++ d.quoteIdentifier t.name ++ " WHERE " ++
          conjoinedText (textsInTurn d sts)
        parameters := sts.flatMap Statement.parameters }) := by
    obtain ⟨htest, -⟩ := testsRow_conjunction htests he
    rw [Query.compile_filtered htest hq.symm, compile_conjunction htests he]
    cases ps.mapM fun p => p.compile d q <;> rfl
  refine ⟨hcompile, ⟨?_, ?_⟩, ?_⟩
  · rintro ⟨st, hst⟩ p hp
    rw [hcompile] at hst
    obtain ⟨sts, hsts, -⟩ := ok_of_bind hst
    exact ok_of_mapM_ok hsts p hp
  · intro hall
    obtain ⟨sts, hsts⟩ := exists_mapM_ok hall
    rw [hcompile, hsts]
    exact ⟨_, rfl⟩
  · rintro before p after err rfl hbefore herr
    rw [hcompile, mapM_of_first hbefore herr]
    rfl

/-- A table of lamps. -/
def lampTable : Table :=
  .of "lamps" [⟨"id", "Id", .int, false, true⟩, ⟨"room", "Room", .text, false, false⟩] (by decide)

/-- A table of bulbs. -/
def bulbTable : Table :=
  .of "bulbs" [⟨"id", "Id", .int, false, true⟩, ⟨"lamp", "Lamp", .int, false, false⟩] (by decide)

/-- Filters for the lamps with a bulb in one room. -/
def lampFilters : List Expr :=
  [.binary .lessThan (.column ⟨⟨0⟩, 0⟩) (.value (.int 9)),
    .exists { Query.all bulbTable ⟨1⟩ with
      predicate := some (.binary .greaterThan (.column ⟨⟨1⟩, 0⟩) (.value (.int 2))) }
      (some (.binary .equal (.column ⟨⟨1⟩, 1⟩) (.column ⟨⟨0⟩, 0⟩))),
    .binary .equal (.column ⟨⟨0⟩, 1⟩) (.value (.text "attic"))]

/-- The text of the statement for the lamps. -/
def lampText : String :=
  "SELECT * FROM [lamps] WHERE ((([id] < $p1) and EXISTS (SELECT 1 FROM [bulbs] " ++
    "WHERE ([bulbs].[id] > $p2) AND ([bulbs].[lamp] = [lamps].[id]))) and ([room] = $p3))"

set_option maxRecDepth 8000 in
/-- The filters for lamps are compiled to their conjunction. -/
theorem compile_filters_lamps :
    lampFilters ≠ [] ∧ (∀ p ∈ lampFilters, IsRowTest p) ∧
      (∀ p ∈ lampFilters, ∃ q, (Query.all lampTable ⟨0⟩).apply ⟨"Where", [p]⟩ = .ok q) ∧
      ∃ q, (Query.all lampTable ⟨0⟩).build (lampFilters.map fun p => ⟨"Where", [p]⟩) = .ok q ∧
        q.compile .sqlite = .ok ⟨lampText, [.int 9, .int 2, .text "attic"]⟩ := by
  have hne : lampFilters ≠ [] := by decide
  have htests : ∀ p ∈ lampFilters, IsRowTest p := by
    simp only [lampFilters, List.forall_mem_cons]
    exact ⟨⟨rfl, rfl⟩, ⟨rfl, rfl⟩, ⟨rfl, rfl⟩, List.forall_mem_nil _⟩
  have hwhere : ∀ p ∈ lampFilters,
      ∃ q, (Query.all lampTable ⟨0⟩).apply ⟨"Where", [p]⟩ = .ok q := by
    simp only [lampFilters, List.forall_mem_cons]
    exact ⟨⟨_, rfl⟩, ⟨_, rfl⟩, ⟨_, rfl⟩, List.forall_mem_nil _⟩
  refine ⟨hne, htests, hwhere, ?_⟩
  obtain ⟨q, hbuild, -, hcompile, -⟩ := compile_filters .sqlite lampTable ⟨0⟩ hne htests hwhere
  refine ⟨q, hbuild, ?_⟩
  cases hbuild
  rw [hcompile]
  rfl

end Sql

end TableQuery
