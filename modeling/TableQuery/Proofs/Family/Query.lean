import TableQuery.Proofs.Emission.Query
import TableQuery.Proofs.Family.Forms

/-!
# Families of statements

The statement of a query is uniform if its filter is (`Select.of_uniform`), and so is a test for
membership in a query or for the existence of a row.  The names of columns and tables do not vary;
the stable property must hold of them.
-/

namespace TableQuery.Sql

open Emit (Uniform)

variable {W : Type} {d : Dialect} {Q : (W → List Piece) → Prop} {ctx : Context} {q : Query}
  {f g : W → Option (Emit Cond)}

/-- The pieces of a family of statements have a property. -/
def Selects (d : Dialect) (Q : (W → List Piece) → Prop) (s : W → Select) : Prop :=
  Q fun w => (s w).pieces d

/-- The pieces of a column name have a property, whatever tables it is read from. -/
def Names (Q : (W → List Piece) → Prop) (_ : List From) (c : ColumnName) : Prop :=
  Q fun _ => c.pieces

/-- A family of filters is uniform: all of them are absent, or none is. -/
def UniformFilter (d : Dialect) (Q : (W → List Piece) → Prop) (f : W → Option (Emit Cond)) : Prop :=
  (f = fun _ => none) ∨ ∃ c, (f = fun w => some (c w)) ∧ Uniform c (Conds d Q)

/-- The conditions that are there, of filters that are uniform. -/
lemma presentConditions_uniform (fs : List (W → Option (Emit Cond)))
    (hf : ∀ f ∈ fs, UniformFilter d Q f) :
    Uniform (fun w => presentConditions (fs.map (· w))) fun x =>
      ∃ cs : List (W → Cond), x = (fun w => cs.map (· w)) ∧ ∀ c ∈ cs, Conds d Q c := by
  induction fs with
  | nil => exact .pure ⟨[], rfl, List.forall_mem_nil _⟩
  | cons f fs ih =>
    have hrest := ih fun g hg => hf g (List.mem_cons_of_mem f hg)
    obtain rfl | ⟨c, rfl, hc⟩ := hf f List.mem_cons_self
    · exact hrest
    · refine hc.bind fun c hc => hrest.bind ?_
      rintro _ ⟨cs, rfl, hcs⟩
      exact .pure ⟨c :: cs, rfl, List.forall_mem_cons.mpr ⟨hc, hcs⟩⟩

/-- The statement of a query that is not counted by way of another. -/
lemma Select.direct_uniform (h : Stable ctx.dialect Q) (hq : Admits (Names Q) (querySites q ctx))
    (htable : Q fun _ => [.identifier q.table.name]) (hf : UniformFilter ctx.dialect Q f) :
    Uniform (fun w => Select.direct ctx q (f w)) (Selects ctx.dialect Q) := by
  unfold Select.direct
  refine .lift_bind fun keys hkeys => .lift_bind fun output houtput => ?_
  have hfilters := presentConditions_uniform [f] (List.forall_mem_singleton.mpr hf)
  refine hfilters.bind ?_
  rintro _ ⟨cs, rfl, hcs⟩
  refine .lift_bind fun order horder => .pure ?_
  have hnames := Output.of_names hq houtput
  have hcolumns := OrderTerm.of_columns hq hkeys horder
  exact h.select hnames htable (h.filters hcs) hcolumns

/-- The statement of a query. -/
theorem Select.of_uniform (h : Stable ctx.dialect Q) (hq : Admits (Names Q) (querySites q ctx))
    (htable : Q fun _ => [.identifier q.table.name]) (hf : UniformFilter ctx.dialect Q f)
    (hlabel : (q.terminal.isCount && (q.isPaged || q.distinct)) = true →
      Q fun _ => [.identifier "t"]) :
    Uniform (fun w => Select.of ctx q (f w)) (Selects ctx.dialect Q) := by
  unfold Select.of
  cases hcount : (q.terminal.isCount && (q.isPaged || q.distinct)) with
  | true =>
    have hq' : Admits (Names Q) (querySites { q with terminal := .sequence } ctx) := by
      rw [querySites_eq] at hq ⊢
      exact hq
    have hrows : Uniform (fun w => Select.direct ctx { q with terminal := .sequence } (f w))
        (Selects ctx.dialect Q) := Select.direct_uniform h hq' htable hf
    refine hrows.bind fun s hs => .pure ?_
    exact h.select (List.forall_mem_nil _) (h.derived hs (hlabel hcount)) h.nil
      (List.forall_mem_nil _)
  | false => exact Select.direct_uniform h hq htable hf

/-- Tests for membership in a query. -/
lemma subqueryMembership_uniform {x : W → Emit Scalar} (h : Stable ctx.dialect Q)
    (hx : Uniform x (Scalars ctx.dialect Q)) (htable : Q fun _ => [.identifier q.table.name])
    (hq : (ctx.isCorrelated q && ctx.readsTableOf q) = false →
      Admits (Names Q) (querySites q (ctx.inside q)) ∧ UniformFilter ctx.dialect Q f) :
    Uniform (fun w => subqueryMembership ctx q (x w) (f w)) (Conds ctx.dialect Q) := by
  unfold subqueryMembership
  refine .ite .fail ?_
  cases hsequence : q.terminal.isSequence with
  | false => exact .fail
  | true =>
    have hcount : q.terminal.isCount = false := by
      rw [eq_of_beq hsequence]
      rfl
    refine hx.bind fun x hx => ?_
    cases hfree : (ctx.isCorrelated q && ctx.readsTableOf q) with
    | true => exact .fail
    | false =>
      obtain ⟨hq, hf⟩ := hq hfree
      have hselect : Uniform (fun w => Select.of (ctx.inside q) q (f w)) (Selects ctx.dialect Q) :=
        Select.of_uniform h hq htable hf (by simp [hcount])
      exact hselect.bind fun s hs => .pure (h.parenCond (h.inSelect hx hs))

/-- Tests for existence in a query. -/
lemma existence_uniform (h : Stable ctx.dialect Q) (htable : Q fun _ => [.identifier q.table.name])
    (hq : ctx.readsTableOf q = false →
      UniformFilter ctx.dialect Q f ∧ UniformFilter ctx.dialect Q g) :
    Uniform (fun w => existence ctx q (f w) (g w)) (Conds ctx.dialect Q) := by
  unfold existence
  refine .ite .fail (.ite .fail ?_)
  cases hfree : ctx.readsTableOf q with
  | true => exact .fail
  | false =>
    obtain ⟨hf, hg⟩ := hq hfree
    have hboth : ∀ o ∈ [f, g], UniformFilter ctx.dialect Q o :=
      List.forall_mem_cons.mpr ⟨hf, List.forall_mem_singleton.mpr hg⟩
    refine (presentConditions_uniform [f, g] hboth).bind ?_
    rintro _ ⟨cs, rfl, hcs⟩
    refine .pure (h.exists ?_)
    exact h.select (List.forall_mem_nil _) htable (h.filters hcs) (List.forall_mem_nil _)

end TableQuery.Sql
