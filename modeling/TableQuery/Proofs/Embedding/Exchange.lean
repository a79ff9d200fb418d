import TableQuery.Proofs.Embedding.Frame
import TableQuery.Proofs.Family.Query

/-!
# Operands that may be exchanged

The expressions of a family may be exchanged for each other (`Exchangeable`) if they are constant
together and then the same, if they have one storage class, and if their forms are uniform.  Then
the expressions around them may be exchanged for each other, too: there is one lemma for each kind
of expression, one for a frame, and by induction one for a place (`Spot.exchangeable`).
-/

namespace TableQuery.Sql

open Emit (Uniform)

variable {W : Type} {Q : (W → List Piece) → Prop} {d : Dialect} {ctx : Context}

/-- A property of families of pieces that holds of all pieces that do not vary, and of families one
after another. -/
structure Composes (Q : (W → List Piece) → Prop) : Prop where
  fixed (ps : List Piece) : Q fun _ => ps
  append {us vs : W → List Piece} : Q us → Q vs → Q fun w => us w ++ vs w

/-- Such a property holds of what a dialect writes alike. -/
lemma Composes.stable (hQ : Composes Q) (d : Dialect) : Stable d Q where
  nil := hQ.fixed []
  append := hQ.append
  word _ := hQ.fixed _
  literal _ := hQ.fixed _
  param _ := hQ.fixed _

/-- An emission that does not vary is uniform. -/
lemma Emit.Uniform.fixed {α : Type} {P : (W → α) → Prop} (x : Emit α) (h : ∀ a, P fun _ => a) :
    Uniform (fun _ => x) P := by
  cases hx : x.result with
  | error err => exact .inl ⟨err, fun _ => hx⟩
  | ok a => exact .inr ⟨fun _ => a, fun _ => hx, h a⟩

/-- What is the same for all of a family is something. -/
lemma exists_common {α : Type} [Nonempty α] {f : W → α} (h : ∀ w w', f w = f w') :
    ∃ a, ∀ w, f w = a := by
  by_cases hw : Nonempty W
  · obtain ⟨w⟩ := hw
    exact ⟨f w, fun w' => h w' w⟩
  · exact ⟨Classical.arbitrary α, fun w => absurd ⟨w⟩ hw⟩

/-- The expressions of a family may stand for each other in a context. -/
structure Exchangeable (ctx : Context) (Q : (W → List Piece) → Prop) (e : W → Expr) : Prop where
  steady : Steady e
  type (w w' : W) : ctx.inferType (e w) = ctx.inferType (e w')
  stripped (w w' : W) : ctx.inferType (stripWidening ctx (e w)) =
    ctx.inferType (stripWidening ctx (e w'))
  forms : UniformForms ctx.dialect Q fun w => formsOf (e w) ctx

namespace Exchangeable

/-- An expression that does not vary may stand for itself. -/
lemma fixed (hQ : Composes Q) (ctx : Context) (e : Expr) : Exchangeable ctx Q fun _ => e where
  steady := .inl ⟨e, fun _ => rfl⟩
  type _ _ := rfl
  stripped _ _ := rfl
  forms := ⟨.fixed _ fun _ => hQ.fixed _, .fixed _ fun _ => hQ.fixed _⟩

/-- Expressions that are no conversions. -/
lemma of_type {e : W → Expr} (hsteady : Steady e)
    (htype : ∀ w w', ctx.inferType (e w) = ctx.inferType (e w'))
    (hstrip : ∀ w, stripWidening ctx (e w) = e w)
    (hforms : UniformForms ctx.dialect Q fun w => formsOf (e w) ctx) : Exchangeable ctx Q e where
  steady := hsteady
  type := htype
  stripped w w' := by rw [hstrip, hstrip, htype w w']
  forms := hforms

variable {e l r : W → Expr}

/-- Either all are constant, with values that can be written alike, or none is. -/
lemma constancy (hQ : Composes Q) (he : Exchangeable ctx Q e) :
    ∃ const, (∀ w, (e w).isConst = const) ∧ (const = true → Known Q e) := by
  obtain ⟨e', he'⟩ | hconst := he.steady
  · cases funext he'
    exact ⟨e'.isConst, fun _ => rfl, fun _ => .lift fun v _ => .fixed (hQ.stable .sqlite) v⟩
  · exact ⟨false, hconst, nofun⟩

/-- The forms of values of one storage class. -/
lemma ofScalar {x : W → Emit Scalar} {description : String} (hQ : Composes Q)
    (htype : ∀ w w', ctx.inferType (e w) = ctx.inferType (e w'))
    (hdescribe : ∀ w, (e w).describe = description) (hx : Uniform x (Scalars ctx.dialect Q)) :
    UniformForms ctx.dialect Q fun w => Forms.ofScalar ctx (e w) (x w) := by
  obtain ⟨ty, hty⟩ := exists_common htype
  exact Forms.ofScalar_uniform (hQ.stable _) hx hty hdescribe

/-- An operator of one operand, with exchangeable operands. -/
lemma unary {op : UnaryOp} (hQ : Composes Q) (hsteady : Steady fun w => .unary op (e w))
    (he : Exchangeable ctx Q e) : Exchangeable ctx Q fun w => .unary op (e w) := by
  have hs := hQ.stable ctx.dialect
  have htype : ∀ w w', ctx.inferType (.unary op (e w)) = ctx.inferType (.unary op (e w')) := by
    intro w w'
    cases op with
    | not => rfl
    | _ => exact he.type w w'
  refine .of_type hsteady htype (fun _ => rfl) (Forms.unlessConstant_uniform hs hsteady ?_)
  cases op with
  | not =>
    refine Forms.ofCondition_uniform hs ?_
    exact he.forms.1.bind fun _ hc => .pure (hs.parenCond (hs.not hc))
  | negate =>
    refine ofScalar hQ htype (fun _ => rfl) ?_
    exact he.forms.2.bind fun _ hx => .pure (hs.paren (hs.negate hx))
  | bitwiseNot =>
    refine ofScalar hQ htype (fun _ => rfl) ?_
    exact he.forms.2.bind fun _ hx => .pure (hs.paren (hs.complement hx))

/-- An operator of two operands, with exchangeable operands. -/
lemma binary {op : BinaryOp} (hQ : Composes Q) (hsteady : Steady fun w => .binary op (l w) (r w))
    (hl : Exchangeable ctx Q l) (hr : Exchangeable ctx Q r) :
    Exchangeable ctx Q fun w => .binary op (l w) (r w) := by
  have hs := hQ.stable ctx.dialect
  have htype : ∀ w w', ctx.inferType (.binary op (l w) (r w)) =
      ctx.inferType (.binary op (l w') (r w')) := by
    intro w w'
    have hlw : (l w).inferType ctx.columnType = (l w').inferType ctx.columnType := hl.type w w'
    have hrw : (r w).inferType ctx.columnType = (r w').inferType ctx.columnType := hr.type w w'
    simp only [Context.inferType, Expr.inferType, hlw, hrw]
  refine .of_type hsteady htype (fun _ => rfl) (Forms.unlessConstant_uniform hs hsteady
    (.ite (fun _ => ?_) fun _ => .ite (fun _ => ?_) fun _ => ?_))
  · exact Forms.ofCondition_uniform hs (logical_uniform hs hl.forms.1 hr.forms.1)
  · obtain ⟨lconst, hlconst, hlknown⟩ := hl.constancy hQ
    obtain ⟨rconst, hrconst, hrknown⟩ := hr.constancy hQ
    exact Forms.ofCondition_uniform hs (comparison_uniform hs hl.forms.2 hr.forms.2 hlconst hrconst
      (fun const _ => hlknown const) fun const _ => hrknown const)
  · obtain ⟨tl, htl⟩ := exists_common hl.type
    obtain ⟨tr, htr⟩ := exists_common hr.type
    refine ofScalar hQ htype (fun _ => rfl) ?_
    exact arithmetic_uniform hs hl.forms.2 hr.forms.2 (fun _ => rfl) htl htr

/-- A conversion of exchangeable expressions. -/
lemma cast {ty : ColumnType} {implicit : Bool} (hQ : Composes Q)
    (hsteady : Steady fun w => .cast (e w) ty implicit) (he : Exchangeable ctx Q e) :
    Exchangeable ctx Q fun w => .cast (e w) ty implicit := by
  have hs := hQ.stable ctx.dialect
  have hwidening : ∀ w w',
      isWidening ctx (e w) ty implicit = isWidening ctx (e w') ty implicit := by
    intro w w'
    rw [isWidening, he.stripped w w', isWidening]
  obtain ⟨widening, hwidening⟩ := exists_common hwidening
  refine ⟨hsteady, fun _ _ => rfl, fun w w' => ?_, ?_⟩
  · cases implicit with
    | false => rfl
    | true =>
      have hinner := he.stripped w w'
      simp only [stripWidening, hinner]
      cases ctx.inferType (stripWidening ctx (e w')) with
      | none => exact hinner
      | some source =>
        cases hwidens : source.widensTo ty with
        | true => simpa only [hwidens, if_true] using hinner
        | false => simp only [hwidens, Bool.false_eq_true, if_false]; rfl
  · have hwhole : ∀ {x : W → Emit Scalar}, Uniform x (Scalars ctx.dialect Q) →
        UniformForms ctx.dialect Q fun w => Forms.unlessConstant (.cast (e w) ty implicit)
          (.ofScalar ctx (.cast (e w) ty implicit) (x w)) :=
      fun hx => Forms.unlessConstant_uniform hs hsteady
        (ofScalar hQ (fun _ _ => rfl) (fun _ => rfl) hx)
    simp only [formsOf, hwidening]
    cases widening with
    | true => exact ⟨(hwhole he.forms.2).1, he.forms.2⟩
    | false => exact hwhole (Call.castTo_uniform hs he.forms.2)

/-- A choice with exchangeable tests and results. -/
lemma conditional {test yes no : W → Expr} (hQ : Composes Q)
    (hsteady : Steady fun w => .conditional (test w) (yes w) (no w)) (ht : Exchangeable ctx Q test)
    (hy : Exchangeable ctx Q yes) (hn : Exchangeable ctx Q no) :
    Exchangeable ctx Q fun w => .conditional (test w) (yes w) (no w) := by
  have hs := hQ.stable ctx.dialect
  have htype : ∀ w w', ctx.inferType (.conditional (test w) (yes w) (no w)) =
      ctx.inferType (.conditional (test w') (yes w') (no w')) := by
    intro w w'
    have hyw : (yes w).inferType ctx.columnType = (yes w').inferType ctx.columnType := hy.type w w'
    have hnw : (no w).inferType ctx.columnType = (no w').inferType ctx.columnType := hn.type w w'
    simp only [Context.inferType, Expr.inferType, hyw, hnw]
  refine .of_type hsteady htype (fun _ => rfl) (Forms.unlessConstant_uniform hs hsteady ?_)
  refine ofScalar hQ htype (fun _ => rfl) ?_
  exact ht.forms.1.bind fun _ ht => hy.forms.2.bind fun _ hy => hn.forms.2.bind fun _ hn =>
    .pure (hs.chosen ht hy hn)

/-- A call with exchangeable arguments. -/
lemma call {func : Func} {es : List (W → Expr)} (hQ : Composes Q)
    (hsteady : Steady fun w => .call func (es.map (· w))) (hes : ∀ e ∈ es, Exchangeable ctx Q e) :
    Exchangeable ctx Q fun w => .call func (es.map (· w)) := by
  have hs := hQ.stable ctx.dialect
  have htype : ∀ w w', ctx.inferType (.call func (es.map (· w))) =
      ctx.inferType (.call func (es.map (· w'))) := by
    intro w w'
    cases es with
    | nil => rfl
    | cons e es => exact congrArg func.resultType ((hes e List.mem_cons_self).type w w')
  let as : List (W → Argument) := es.map fun e w => ⟨e w, (formsOf (e w) ctx).scalar⟩
  have has : ∀ w, argumentForms (es.map (· w)) ctx = as.map (· w) := by
    intro w
    rw [argumentForms_eq_map, List.map_map, List.map_map]
    rfl
  have hall : ∀ a ∈ as, ∃ e ∈ es, (fun w => (a w).expr) = e ∧
      (fun w => (a w).scalar) = fun w => (formsOf (e w) ctx).scalar := by
    intro a ha
    obtain ⟨e, he, rfl⟩ := List.mem_map.mp ha
    exact ⟨e, he, rfl, rfl⟩
  have huniform : Call.Arguments ctx.dialect Q as := by
    intro a ha
    obtain ⟨e, he, -, hscalar⟩ := hall a ha
    rw [hscalar]
    exact (hes e he).forms.2
  -- Whatever may stand for an argument is steady, so the second, if it is folded, is too.
  have hsecond : func.readsSecond = true → ∀ a ∈ as[1]?, Steady fun w => (a w).expr := by
    intro _ a ha
    obtain ⟨e, he, hexpr, -⟩ := hall a (List.mem_of_getElem? ha)
    rw [hexpr]
    exact (hes e he).steady
  refine .of_type hsteady htype (fun _ => rfl) (Forms.unlessConstant_uniform hs hsteady ?_)
  simp only [has]
  refine .ite (fun _ => ?_) fun _ => ?_
  · exact Forms.ofCondition_uniform hs (Call.condition_uniform hs huniform hsecond)
  · exact ofScalar hQ htype (fun _ => rfl) (Call.scalar_uniform hs huniform hsecond)

/-- A test for membership of exchangeable expressions in a list. -/
lemma inList {members : List Value} (hQ : Composes Q)
    (hsteady : Steady fun w => .inList (e w) members) (he : Exchangeable ctx Q e) :
    Exchangeable ctx Q fun w => .inList (e w) members := by
  have hs := hQ.stable ctx.dialect
  refine .of_type hsteady (fun _ _ => rfl) (fun _ => rfl)
    (Forms.unlessConstant_uniform hs hsteady (Forms.ofCondition_uniform hs ?_))
  exact membership_fixed_uniform hs he.forms.2 members

/-- A filter that does not vary is uniform. -/
lemma fixedFilter (hQ : Composes Q) (f : Option (Emit Cond)) :
    UniformFilter d Q fun _ => f := by
  cases f with
  | none => exact .inl rfl
  | some c => exact .inr ⟨fun _ => c, rfl, .fixed c fun _ => hQ.fixed _⟩

/-- A test for membership of exchangeable expressions in a query. -/
lemma member {q : Query} (hQ : Composes Q) (he : Exchangeable ctx Q e) :
    Exchangeable ctx Q fun w => .inSubquery (e w) q := by
  have hs := hQ.stable ctx.dialect
  refine .of_type (.inr fun _ => rfl) (fun _ _ => rfl) (fun _ => rfl)
    (Forms.ofCondition_uniform hs ?_)
  exact subqueryMembership_uniform hs he.forms.2 (hQ.fixed _) fun _ =>
    ⟨fun _ _ _ _ => hQ.fixed _, fixedFilter hQ _⟩

/-- The filter of a query counts only for whether the query reads the rows around it. -/
lemma subqueryMembership_filteredBy {q : Query} {x : Emit Scalar} {f : Option (Emit Cond)}
    {p : Expr} (h : ctx.isCorrelated (q.filteredBy p) = false) :
    subqueryMembership ctx (q.filteredBy p) x f =
      subqueryMembership ctx { q with predicate := none } x f := by
  have hnone : ctx.isCorrelated { q with predicate := none } = false := rfl
  have hinside : ctx.inside (q.filteredBy p) = ctx.inside { q with predicate := none } := by
    rw [Context.inside, Context.inside, h, hnone]
    rfl
  unfold subqueryMembership
  rw [h, hnone, hinside]
  rfl

/-- A test for membership in a query with exchangeable filters. -/
lemma filter {x : Expr} {q : Query} (hQ : Composes Q)
    (hopen : ∀ w, (Frame.filter x q).isOpen ctx (e w) = true)
    (he : Exchangeable ((Frame.filter x q).place ctx) Q e) :
    Exchangeable ctx Q fun w => .inSubquery x (q.filteredBy (e w)) := by
  have hs := hQ.stable ctx.dialect
  have hplain : ∀ w, ctx.isCorrelated (q.filteredBy (e w)) = false :=
    fun w => Frame.plain_of_isOpen (hopen w)
  refine .of_type (.inr fun _ => rfl) (fun _ _ => rfl) (fun _ => rfl) ?_
  simp only [formsOf, subqueryMembership_filteredBy (hplain _), Frame.inside_of_isOpen (hopen _)]
  have hx := (fixed hQ ctx x).forms.2
  refine Forms.ofCondition_uniform hs (subqueryMembership_uniform hs hx (hQ.fixed _) fun _ => ?_)
  exact ⟨fun _ _ _ _ => hQ.fixed _, .inr ⟨_, rfl, he.forms.1⟩⟩

end Exchangeable

section Places

variable {e : W → Expr}

/-- What leaves its operand out is the same everywhere. -/
lemma Frame.exchangeable_of_drops {fr : Frame} (hQ : Composes Q)
    (const : ∀ w, (e w).isConst = false) (hdrops : fr.drops = true) :
    Exchangeable ctx Q fun w => fr.fill (e w) := by
  have hs := hQ.stable ctx.dialect
  have hsteady : Steady fun w => fr.fill (e w) := .inr fun w => fr.isConst_fill (const w)
  cases fr with
  | listed members =>
    cases List.isEmpty_iff.mp hdrops
    refine .of_type hsteady (fun _ _ => rfl) (fun _ => rfl)
      (Forms.unlessConstant_uniform hs hsteady ?_)
    exact Forms.ofCondition_uniform hs (.pure (hs.truthCond false))
  | argument func before after =>
    cases before with
    | cons => cases hdrops
    | nil =>
      cases eq_endsWith_of_isEmptySuffix hdrops
      have hcondition : ∀ w, Call.condition ctx.dialect .endsWith
          (argumentForms (e w :: after) ctx) = pure (truth true) := by
        intro w
        refine Call.condition_of_isEmptySuffix ?_
        rw [argumentForms_expr]
        exact (isEmptySuffix_argument (const w) .endsWith [] after).trans hdrops
      refine .of_type hsteady (fun _ _ => rfl) (fun _ => rfl)
        (Forms.unlessConstant_uniform hs hsteady ?_)
      refine .ite (fun _ => ?_) fun hpredicate => absurd rfl hpredicate
      exact Forms.ofCondition_uniform hs (.of_eq hcondition (.pure (hs.truthCond true)))
  | _ => cases hdrops

/-- What is around exchangeable operands is exchangeable. -/
theorem Frame.exchangeable {fr : Frame} (hQ : Composes Q) (const : ∀ w, (e w).isConst = false)
    (hopen : ∀ w, fr.isOpen ctx (e w) = true)
    (he : fr.drops = false → Exchangeable (fr.place ctx) Q e) :
    Exchangeable ctx Q fun w => fr.fill (e w) := by
  cases hdrops : fr.drops with
  | true => exact Frame.exchangeable_of_drops hQ const hdrops
  | false =>
    have he := he hdrops
    have hsteady : Steady fun w => fr.fill (e w) := .inr fun w => fr.isConst_fill (const w)
    have hfixed : ∀ p : Expr, Exchangeable ctx Q fun _ => p := Exchangeable.fixed hQ ctx
    cases fr with
    | unary op => exact .unary hQ hsteady he
    | left op r => exact .binary hQ hsteady he (hfixed r)
    | right op l => exact .binary hQ hsteady (hfixed l) he
    | cast ty implicit => exact .cast hQ hsteady he
    | test y n => exact .conditional hQ hsteady he (hfixed y) (hfixed n)
    | yes c n => exact .conditional hQ hsteady (hfixed c) he (hfixed n)
    | no c y => exact .conditional hQ hsteady (hfixed c) (hfixed y) he
    | argument func before after =>
      -- The other arguments are families that do not vary.
      let es : List (W → Expr) := before.map (fun p _ => p) ++ e :: after.map fun p _ => p
      have hes : ∀ w, es.map (· w) = before ++ e w :: after := by
        intro w
        simp only [es, List.map_append, List.map_cons, List.map_map]
        exact congrArg₂ (· ++ e w :: ·) (List.map_id before) (List.map_id after)
      have hall : ∀ p ∈ es, Exchangeable ctx Q p := by
        simp only [es, List.forall_mem_append, List.forall_mem_cons, List.forall_mem_map]
        exact ⟨fun p _ => hfixed p, he, fun p _ => hfixed p⟩
      simp only [fill, ← hes] at hsteady ⊢
      exact .call hQ hsteady hall
    | listed members => exact .inList hQ hsteady he
    | member q => exact .member hQ he
    | filter x q => exact .filter hQ hopen he

/-- What is around exchangeable expressions in a place is exchangeable. -/
theorem Spot.exchangeable {s : Spot} (hQ : Composes Q) (const : ∀ w, (e w).isConst = false)
    (hopen : ∀ w, isOpen (e w) s ctx = true)
    (he : s.drops = false → Exchangeable (place s ctx) Q e) :
    Exchangeable ctx Q fun w => fill (e w) s := by
  induction s generalizing ctx with
  | nil => exact he rfl
  | cons fr s ih =>
    simp only [isOpen, Bool.and_eq_true] at hopen
    refine Frame.exchangeable hQ (fun w => isConst_fill (const w)) (fun w => (hopen w).1)
      fun hfr => ?_
    refine ih (fun w => (hopen w).2) fun hs => he ?_
    rw [drops, List.any_cons, hfr, Bool.false_or]
    exact hs

end Places

end TableQuery.Sql
