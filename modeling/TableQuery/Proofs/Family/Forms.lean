import TableQuery.Proofs.Family.Call

/-!
# Families of operators

Both forms of an operator are uniform if the forms of its operands are (`UniformForms`), and their
pieces have a stable property if those of the operands have it.  Operands may vary in the value of a
constant, as long as the values can be written alike (`Known`), but not in whether they are constant
nor in their storage class.
-/

namespace TableQuery.Sql

open Emit (Uniform)

variable {W : Type} {d : Dialect} {Q : (W → List Piece) → Prop} {x y : W → Emit Scalar}
  {c c' : W → Emit Cond} {e l r : W → Expr} {op : BinaryOp}

/-- Both forms of a family of expressions are uniform. -/
def UniformForms (d : Dialect) (Q : (W → List Piece) → Prop) (f : W → Forms) : Prop :=
  Emit.Uniform (fun w => (f w).condition) (Conds d Q) ∧
    Emit.Uniform (fun w => (f w).scalar) (Scalars d Q)

/-- A choice of forms that does not vary. -/
lemma UniformForms.ite {p : Prop} [Decidable p] {f g : W → Forms} (hf : p → UniformForms d Q f)
    (hg : ¬p → UniformForms d Q g) : UniformForms d Q fun w => if p then f w else g w := by
  split
  case isTrue hp => exact hf hp
  case isFalse hp => exact hg hp

/-- Constants have values that can be written alike, or all have none. -/
def Known (Q : (W → List Piece) → Prop) (e : W → Expr) : Prop :=
  Uniform (fun w => Emit.lift (constant (e w))) (Bindable Q)

/-- The forms of conditions. -/
lemma Forms.ofCondition_uniform (h : Stable d Q) (hc : Uniform c (Conds d Q)) :
    UniformForms d Q fun w => Forms.ofCondition (c w) :=
  ⟨hc, hc.bind fun _ hc => .pure (h.chosen hc (h.truth true) (h.truth false))⟩

/-- The forms of values of one storage class. -/
lemma Forms.ofScalar_uniform (h : Stable d Q) {ctx : W → Context} {ty : Option ColumnType}
    {description : String} (hx : Uniform x (Scalars d Q))
    (htype : ∀ w, (ctx w).inferType (e w) = ty) (hdescribe : ∀ w, (e w).describe = description) :
    UniformForms d Q fun w => Forms.ofScalar (ctx w) (e w) (x w) := by
  refine ⟨?_, hx⟩
  simp only [Forms.ofScalar, htype, hdescribe]
  cases ty.filter (fun ty => !ty.isBool) with
  | some ty => exact .fail
  | none => exact hx.bind fun _ hx => .pure (h.compared _ hx (h.truth true))

/-- The forms of a constant. -/
lemma Forms.ofConstant_uniform (h : Stable d Q) (e : Expr) :
    UniformForms d Q fun _ => Forms.ofConstant e := by
  constructor
  case left =>
    refine .lift_bind fun v _ => ?_
    cases v with
    | bool b => exact .pure (h.truthCond b)
    | _ => exact .fail
  case right => exact .lift_bind fun v _ => literal_uniform h (.fixed h v)

/-- The forms of what may be constant. -/
lemma Forms.unlessConstant_uniform (h : Stable d Q) {f : W → Forms} (hsteady : Steady e)
    (hf : UniformForms d Q f) : UniformForms d Q fun w => Forms.unlessConstant (e w) (f w) := by
  obtain ⟨e', he⟩ | he := hsteady
  · simp only [he, Forms.unlessConstant]
    cases e'.isConst with
    | true => exact Forms.ofConstant_uniform h e'
    | false => exact hf
  · simp only [he, Forms.unlessConstant]
    exact hf

/-- Comparisons with constants. -/
lemma againstConstant_uniform (h : Stable d Q) (hx : Uniform x (Scalars d Q)) (he : Known Q e) :
    Uniform (fun w => againstConstant op (x w) (e w)) (Conds d Q) := by
  unfold againstConstant
  refine he.bind fun v hv => ?_
  have hliteral := literal_uniform h hv
  obtain hnull | ⟨hnull, -⟩ := hv
  · simp only [hnull, if_true]
    cases op with
    | equal => exact hx.bind fun _ hx => .pure (h.parenCond (h.isNull hx))
    | notEqual => exact hx.bind fun _ hx => .pure (h.parenCond (h.isNotNull hx))
    | _ => exact .fail
  · simp only [hnull, Bool.false_eq_true, if_false]
    exact hx.bind fun _ hx => hliteral.bind fun _ hv => .pure (h.compared op hx hv)

/-- Comparisons of two operands. -/
lemma comparison_uniform (h : Stable d Q) {lconst rconst : Bool} (hx : Uniform x (Scalars d Q))
    (hy : Uniform y (Scalars d Q)) (hl : ∀ w, (l w).isConst = lconst)
    (hr : ∀ w, (r w).isConst = rconst) (hlknown : lconst = true → rconst = false → Known Q l)
    (hrknown : rconst = true → lconst = false → Known Q r) :
    Uniform (fun w => comparison op (l w) (r w) (x w) (y w)) (Conds d Q) := by
  have hboth : Uniform (fun w => do let a ← x w; return compared op a (← y w)) (Conds d Q) :=
    hx.bind fun _ hx => hy.bind fun _ hy => .pure (h.compared op hx hy)
  simp only [comparison, hl, hr]
  cases lconst with
  | false =>
    cases rconst with
    | false => exact hboth
    | true => exact againstConstant_uniform h hx (hrknown rfl rfl)
  | true =>
    cases rconst with
    | false => exact againstConstant_uniform h hy (hlknown rfl rfl)
    | true => exact hboth

/-- Connectives of two conditions. -/
lemma logical_uniform (h : Stable d Q) (hc : Uniform c (Conds d Q))
    (hc' : Uniform c' (Conds d Q)) : Uniform (fun w => logical op (c w) (c' w)) (Conds d Q) := by
  refine hc.bind fun _ hc => hc'.bind fun _ hc' => .pure (h.parenCond ?_)
  by_cases hop : op = .and
  · simp only [hop, if_true]
    exact h.and hc hc'
  · simp only [hop, if_false]
    exact h.or hc hc'

/-- Arithmetic with two operands. -/
lemma arithmetic_uniform {ctx : W → Context} (h : Stable d Q) {tl tr : Option ColumnType}
    (hx : Uniform x (Scalars d Q)) (hy : Uniform y (Scalars d Q)) (hd : ∀ w, (ctx w).dialect = d)
    (hl : ∀ w, (ctx w).inferType (l w) = tl) (hr : ∀ w, (ctx w).inferType (r w) = tr) :
    Uniform (fun w => arithmetic (ctx w) op (l w) (r w) (x w) (y w)) (Scalars d Q) := by
  simp only [arithmetic, hd, hl, hr]
  refine hx.bind fun _ ha => hy.bind fun _ hb => ?_
  refine .ite (.pure (h.call₂ _ ha hb)) (.ite (.pure (h.paren (h.concat ha hb))) (.ite ?_ ?_))
  · refine hx.bind fun _ ha' => hy.bind fun _ hb' => .pure ?_
    exact h.grouped _ (h.grouped _ ha hb) (h.grouped _ ha' hb')
  · exact .pure (h.grouped op ha hb)

section Members

variable {vs : List (W → Value)}

/-- Literals of several values that can be written alike. -/
lemma literals_uniform (h : Stable d Q) (hv : ∀ v ∈ vs, Bindable Q v) :
    Uniform (fun w => literals (vs.map (· w))) fun x =>
      ∃ xs : List (W → Scalar), x = (fun w => xs.map (· w)) ∧ ∀ y ∈ xs, Scalars d Q y := by
  induction vs with
  | nil => exact .pure ⟨[], rfl, List.forall_mem_nil _⟩
  | cons v vs ih =>
    have hvs := ih fun u hu => hv u (List.mem_cons_of_mem v hu)
    refine (literal_uniform h (hv v List.mem_cons_self)).bind fun x hx => hvs.bind ?_
    rintro _ ⟨xs, rfl, hxs⟩
    exact .pure ⟨x :: xs, rfl, List.forall_mem_cons.mpr ⟨hx, hxs⟩⟩

/-- The members of lists other than null can be written alike, if all members can. -/
lemma members_uniform (hv : ∀ v ∈ vs, Bindable Q v) :
    ∃ (present : List (W → Value)) (hasNull : Bool), (∀ v ∈ present, Bindable Q v) ∧
      ∀ w, Value.present (vs.map (· w)) = present.map (· w) ∧
        (vs.map (· w)).any Value.isNull = hasNull := by
  induction vs with
  | nil => exact ⟨[], false, List.forall_mem_nil _, fun w => ⟨rfl, rfl⟩⟩
  | cons v vs ih =>
    obtain ⟨present, hasNull, hpresent, hvs⟩ := ih fun u hu => hv u (List.mem_cons_of_mem v hu)
    have hbind := hv v List.mem_cons_self
    obtain hnull | ⟨hnull, -⟩ := id hbind
    · refine ⟨present, true, hpresent, fun w => ⟨?_, ?_⟩⟩
      · simpa [Value.present, hnull w] using (hvs w).1
      · simp [hnull w]
    · refine ⟨v :: present, hasNull, List.forall_mem_cons.mpr ⟨hbind, hpresent⟩, fun w => ⟨?_, ?_⟩⟩
      · simpa [Value.present, hnull w] using (hvs w).1
      · simpa [hnull w] using (hvs w).2

/-- Tests for membership in lists whose members vary. -/
lemma membership_uniform (h : Stable d Q) (hx : Uniform x (Scalars d Q))
    (hv : ∀ v ∈ vs, Bindable Q v) :
    Uniform (fun w => membership (x w) (vs.map (· w))) (Conds d Q) := by
  obtain ⟨present, hasNull, hpresent, hvs⟩ := members_uniform hv
  have hliterals := literals_uniform h hpresent
  simp only [membership, (hvs _).1, (hvs _).2, List.isEmpty_map]
  cases present.isEmpty with
  | true =>
    cases hasNull with
    | false => exact .pure (h.truthCond false)
    | true => exact hx.bind fun _ hx => .pure (h.parenCond (h.isNull hx))
  | false =>
    cases hasNull with
    | false =>
      refine hx.bind fun _ hx => hliterals.bind ?_
      rintro _ ⟨xs, rfl, hxs⟩
      exact .pure (h.parenCond (h.inList hx (h.list hxs)))
    | true =>
      refine hx.bind fun _ ha => hliterals.bind ?_
      rintro _ ⟨xs, rfl, hxs⟩
      refine hx.bind fun _ hb => .pure ?_
      exact h.parenCond (h.or (h.inList ha (h.list hxs)) (h.isNull hb))

/-- Tests for membership in one list. -/
lemma membership_fixed_uniform (h : Stable d Q) (hx : Uniform x (Scalars d Q))
    (members : List Value) : Uniform (fun w => membership (x w) members) (Conds d Q) := by
  have hmembers : ∀ v ∈ members.map fun v _ => v, Bindable Q v := by
    intro u hu
    obtain ⟨v, -, rfl⟩ := List.mem_map.mp hu
    exact .fixed h v
  have hfixed : ∀ w : W, (members.map fun v _ => v).map (· w) = members := by
    intro w
    rw [List.map_map]
    exact List.map_id members
  have hmembership := membership_uniform h hx hmembers
  simp only [hfixed] at hmembership
  exact hmembership

end Members

end TableQuery.Sql
