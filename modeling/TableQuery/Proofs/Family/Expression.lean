import TableQuery.Proofs.Family.Query
import TableQuery.Sql.Statement

/-!
# Families of expressions

Both forms of an expression are uniform as its literals are replaced by others, as far as that is
allowed, and their pieces have any stable property that holds of the free literals, of the columns
and of the tables that the expression reads (`formsOf_uniform`).  This is by induction on the
expression, where a free literal has only one form, as a value.  So what a query or an expression is
compiled to is uniform (`ofQuery_uniform`, `ofExpr_uniform`).
-/

namespace TableQuery

mutual

/-- The tables that an expression reads in its subqueries. -/
def Expr.tables : Expr → List Table
  | .value _ | .column _ => []
  | .unary _ e | .cast e _ _ | .inList e _ => e.tables
  | .binary _ left right => left.tables ++ right.tables
  | .conditional test yes no => test.tables ++ yes.tables ++ no.tables
  | .call _ args => listTables args
  | .inSubquery e q => e.tables ++ q.tables
  | .exists q condition => q.tables ++ optionTables condition

/-- The tables that several expressions read. -/
def listTables : List Expr → List Table
  | [] => []
  | e :: es => e.tables ++ listTables es

/-- The tables that an expression reads that may be absent. -/
def optionTables : Option Expr → List Table
  | none => []
  | some e => e.tables

/-- The tables that a query reads: its own first, then those of its subqueries. -/
def Query.tables : Query → List Table
  | { table, predicate, .. } => table :: optionTables predicate

end

/-- The table of a query is among those that it reads. -/
lemma Query.table_mem_tables (q : Query) : q.table ∈ q.tables := by
  cases q
  exact List.mem_cons_self

namespace Sql

open Emit (Uniform)

variable {W : Type} {Q : (W → List Piece) → Prop} {r : W → Replacement} {ctx : Context}

/-- Replacements are allowed for some literals, and a property holds of the free ones as they are
replaced, of the names of columns and of the names of tables. -/
structure Covers (Q : (W → List Piece) → Prop) (r : W → Replacement) (ls : List Literal)
    (ss : List Site) (ts : List Table) : Prop where
  allows : ∀ w, (r w).AllowsAll ls
  literals : ∀ l ∈ ls, l.free = true → Q fun w => [.param (r w l.path l.value)]
  columns : Admits (Names Q) ss
  tables : ∀ t ∈ ts, Q fun _ => [.identifier t.name]

/-- What covers the literals of two expressions covers those of the first. -/
lemma Covers.left {ks ls : List Literal} {ss : List Site} {ts : List Table}
    (h : Covers Q r (ks ++ ls) ss ts) : Covers Q r ks ss ts where
  allows w := (Replacement.allowsAll_append.mp (h.allows w)).1
  literals l hl := h.literals l (List.mem_append_left ls hl)
  columns := h.columns
  tables := h.tables

/-- To cover two expressions is to cover each of them. -/
lemma covers_append {ks ls : List Literal} {ss us : List Site} {ts vs : List Table} :
    Covers Q r (ks ++ ls) (ss ++ us) (ts ++ vs) ↔ Covers Q r ks ss ts ∧ Covers Q r ls us vs := by
  constructor
  case mp =>
    rintro ⟨ha, hl, hc, ht⟩
    simp only [Replacement.allowsAll_append, forall_and] at ha
    rw [admits_append] at hc
    rw [List.forall_mem_append] at hl ht
    exact ⟨⟨ha.1, hl.1, hc.1, ht.1⟩, ⟨ha.2, hl.2, hc.2, ht.2⟩⟩
  case mpr =>
    rintro ⟨⟨ha, hl, hc, ht⟩, ⟨ha', hl', hc', ht'⟩⟩
    exact ⟨fun w => Replacement.allowsAll_append.mpr ⟨ha w, ha' w⟩,
      List.forall_mem_append.mpr ⟨hl, hl'⟩, admits_append.mpr ⟨hc, hc'⟩,
      List.forall_mem_append.mpr ⟨ht, ht'⟩⟩

section Operands

variable {d : Dialect} {ls : List Literal} {ss : List Site} {ts : List Table} {e : Expr} {p : Path}
  {free : Bool}

/-- Null is the value without a storage class. -/
lemma isNull_eq_isNone (v : Value) : v.isNull = v.type?.isNone := by cases v <;> rfl

/-- A free literal can be written with its replacements. -/
lemma Covers.bindable {v : Value} (h : Stable d Q) (hc : Covers Q r ls ss ts)
    (hl : ⟨p, v, free⟩ ∈ ls) : Bindable Q fun w => r w p v := by
  cases free with
  | false =>
    have hv : (fun w => r w p v) = fun _ => v := funext fun w => (hc.allows w _ hl).fixed
    rw [hv]
    exact .fixed h v
  | true =>
    have hnull : ∀ w, (r w p v).isNull = v.isNull := by
      intro w
      rw [isNull_eq_isNone, (hc.allows w _ hl).type?, ← isNull_eq_isNone]
    cases hv : v.isNull with
    | true => exact .inl fun w => (hnull w).trans hv
    | false => exact .inr ⟨fun w => (hnull w).trans hv, hc.literals _ hl rfl⟩

/-- Only a literal may be free itself. -/
lemma literals_of_isValue (h : e.isValue = false) : e.literals free p = e.literals false p := by
  cases e with
  | value v => cases h
  | _ => rfl

/-- An expression that is not free itself is constant and stays as it is, or it is never
constant. -/
lemma steady_replace (h : ∀ w, (r w).AllowsAll (e.literals false p)) :
    Steady fun w => e.replace (r w) p := by
  cases hconst : e.isConst with
  | true => exact .inl ⟨e, fun w => e.replace_const p hconst (h w)⟩
  | false => exact .inr fun w => (e.isConst_replace p).trans hconst

/-- The forms of a value with its literals replaced. -/
lemma ofScalar_replace (h : Stable ctx.dialect Q) (ha : ∀ w, (r w).AllowsAll (e.literals free p))
    {x : W → Emit Scalar} (hx : Uniform x (Scalars ctx.dialect Q)) :
    UniformForms ctx.dialect Q fun w => Forms.ofScalar ctx (e.replace (r w) p) (x w) :=
  Forms.ofScalar_uniform h hx (fun w => e.inferType_replace ctx.columnType p free (ha w))
    fun w => Expr.describe_replace (ha w)

/-- A constant that is covered has values that can be written alike. -/
lemma known_replace (h : Stable d Q) (hc : Covers Q r (e.literals free p) ss ts)
    (hconst : e.isConst = true) : Known Q fun w => e.replace (r w) p := by
  cases hvalue : e.isValue with
  | true =>
    cases e with
    | value v =>
      have hv : Bindable Q fun w => r w p v := hc.bindable h List.mem_cons_self
      exact .inr ⟨fun w => r w p v, fun _ => rfl, hv⟩
    | _ => cases hvalue
  | false =>
    rw [literals_of_isValue hvalue] at hc
    have he : (fun w => e.replace (r w) p) = fun _ => e :=
      funext fun w => e.replace_const p hconst (hc.allows w)
    rw [he]
    exact .lift fun v _ => .fixed h v

/-- The value of an operand that is covered. -/
lemma operand_uniform (h : Stable ctx.dialect Q) (hc : Covers Q r (e.literals free p) ss ts)
    (he : Covers Q r (e.literals false p) ss ts →
      UniformForms ctx.dialect Q fun w => formsOf (e.replace (r w) p) ctx) :
    Uniform (fun w => (formsOf (e.replace (r w) p) ctx).scalar) (Scalars ctx.dialect Q) := by
  cases hvalue : e.isValue with
  | true =>
    cases e with
    | value v => exact (known_replace h hc rfl).bind fun v hv => literal_uniform h hv
    | _ => cases hvalue
  | false =>
    rw [literals_of_isValue hvalue] at hc
    exact (he hc).2

end Operands

/-- The statement of a query depends on its literals only by its filter. -/
lemma Select.of_replace (r : Replacement) (q : Query) (p : Path) (f : Option (Emit Cond)) :
    Select.of ctx (q.replace r p) f = Select.of ctx q f := by
  cases q
  rfl

/-- Membership in a query depends on the literals of the query only by its filter. -/
lemma subqueryMembership_replace (r : Replacement) (q : Query) (p : Path) (x : Emit Scalar)
    (f : Option (Emit Cond)) :
    subqueryMembership ctx (q.replace r p) x f = subqueryMembership ctx q x f := by
  unfold subqueryMembership
  rw [Context.isCorrelated_replace, Context.inside_replace, Select.of_replace]
  cases q
  rfl

/-- Whether a query has a row depends on the literals of the query only by its filter. -/
lemma existence_replace (r : Replacement) (q : Query) (p : Path) (f g : Option (Emit Cond)) :
    existence ctx (q.replace r p) f g = existence ctx q f g := by
  cases q
  rfl

section Constructors

variable {p : Path} {e left right test yes no : Expr} {q : Query}

/-- The forms of an expression are uniform as its literals are replaced, if that is allowed and a
property holds of what it reads. -/
def ReplacedUniform (Q : (W → List Piece) → Prop) (r : W → Replacement) (ctx : Context) (p : Path)
    (e : Expr) : Prop :=
  Covers Q r (e.literals false p) (exprSites e ctx) e.tables →
    UniformForms ctx.dialect Q fun w => formsOf (e.replace (r w) p) ctx

/-- A literal that is not free stays as it is. -/
lemma value_uniform (h : Stable ctx.dialect Q) (v : Value) :
    ReplacedUniform Q r ctx p (.value v) := by
  intro hc
  have he : (fun w => (Expr.value v).replace (r w) p) = fun _ => .value v :=
    funext fun w => Expr.replace_const _ p rfl (hc.allows w)
  simp only [congrFun he]
  exact Forms.ofConstant_uniform h (.value v)

/-- A column has no literals. -/
lemma column_uniform (h : Stable ctx.dialect Q) (ref : ColumnRef) :
    ReplacedUniform Q r ctx p (.column ref) := by
  intro hc
  refine ofScalar_replace h hc.allows (.lift_bind fun c hcolumn => .pure ?_)
  exact hc.columns _ List.mem_cons_self c hcolumn

/-- An operator with one operand. -/
lemma unary_uniform (h : Stable ctx.dialect Q) (op : UnaryOp)
    (he : ReplacedUniform Q r ctx (0 :: p) e) : ReplacedUniform Q r ctx p (.unary op e) := by
  intro hc
  have he := he hc
  refine Forms.unlessConstant_uniform h (steady_replace hc.allows) ?_
  cases op with
  | not =>
    refine Forms.ofCondition_uniform h (he.1.bind fun _ hx => .pure ?_)
    exact h.parenCond (h.not hx)
  | negate =>
    refine ofScalar_replace h hc.allows (he.2.bind fun _ hx => .pure ?_)
    exact h.paren (h.negate hx)
  | bitwiseNot =>
    refine ofScalar_replace h hc.allows (he.2.bind fun _ hx => .pure ?_)
    exact h.paren (h.complement hx)

/-- An operator with two operands. -/
lemma binary_uniform (h : Stable ctx.dialect Q) (op : BinaryOp)
    (hl : ReplacedUniform Q r ctx (0 :: p) left) (hr : ReplacedUniform Q r ctx (1 :: p) right) :
    ReplacedUniform Q r ctx p (.binary op left right) := by
  intro hc
  have hallows := hc.allows
  rw [Expr.literals, exprSites, Expr.tables, covers_append] at hc
  have hleft := operand_uniform h hc.1 hl
  have hright := operand_uniform h hc.2 hr
  refine Forms.unlessConstant_uniform h (steady_replace hallows)
    (.ite (fun hlogical => ?_) fun _ => .ite (fun _ => ?_) fun _ => ?_)
  · -- No operand of a connective is free itself, so both are as the induction has them.
    have hnot : (!op.isLogical) = false := by rw [hlogical, Bool.not_true]
    simp only [hnot, Bool.false_and] at hc
    exact Forms.ofCondition_uniform h (logical_uniform h (hl hc.1).1 (hr hc.2).1)
  · refine Forms.ofCondition_uniform h (comparison_uniform h hleft hright
      (fun w => left.isConst_replace _) (fun w => right.isConst_replace _) ?_ ?_)
    · exact fun hconst _ => known_replace h hc.1 hconst
    · exact fun hconst _ => known_replace h hc.2 hconst
  · have htl := fun w => left.inferType_replace ctx.columnType _ _ (hc.1.allows w)
    have htr := fun w => right.inferType_replace ctx.columnType _ _ (hc.2.allows w)
    exact ofScalar_replace h hallows (arithmetic_uniform h hleft hright (fun _ => rfl) htl htr)

/-- A conversion. -/
lemma cast_uniform (h : Stable ctx.dialect Q) (ty : ColumnType) (implicit : Bool)
    (he : ReplacedUniform Q r ctx (0 :: p) e) :
    ReplacedUniform Q r ctx p (.cast e ty implicit) := by
  intro hc
  have he := he hc
  have hsteady := steady_replace hc.allows
  have hwidening : ∀ w, isWidening ctx (e.replace (r w) (0 :: p)) ty implicit =
      isWidening ctx e ty implicit := fun w => isWidening_replace (hc.allows w)
  simp only [Expr.replace, formsOf, hwidening]
  cases isWidening ctx e ty implicit with
  | true =>
    have hwhole := Forms.unlessConstant_uniform h hsteady (ofScalar_replace h hc.allows he.2)
    exact ⟨hwhole.1, he.2⟩
  | false =>
    exact Forms.unlessConstant_uniform h hsteady
      (ofScalar_replace h hc.allows (Call.castTo_uniform h he.2))

/-- A choice. -/
lemma conditional_uniform (h : Stable ctx.dialect Q) (ht : ReplacedUniform Q r ctx (0 :: p) test)
    (hy : ReplacedUniform Q r ctx (1 :: p) yes) (hn : ReplacedUniform Q r ctx (2 :: p) no) :
    ReplacedUniform Q r ctx p (.conditional test yes no) := by
  intro hc
  have hallows := hc.allows
  simp only [Expr.literals, exprSites, Expr.tables, covers_append] at hc
  have hy := operand_uniform h hc.1.2 hy
  have hn := operand_uniform h hc.2 hn
  refine Forms.unlessConstant_uniform h (steady_replace hallows) (ofScalar_replace h hallows ?_)
  exact (ht hc.1.1).1.bind fun _ ht =>
    hy.bind fun _ hy => hn.bind fun _ hn => .pure (h.chosen ht hy hn)

/-- A call, whose arguments are uniform, and steady where they are read. -/
lemma call_uniform (h : Stable ctx.dialect Q) {func : Func} {args : List Expr}
    {as : List (W → Argument)}
    (hallows : ∀ w, (r w).AllowsAll ((Expr.call func args).literals false p))
    (has : ∀ w, argumentForms (listReplace (r w) p 0 args) ctx = as.map (· w))
    (huniform : Call.Arguments ctx.dialect Q as)
    (hsecond : func.readsSecond = true → ∀ a ∈ as[1]?, Steady fun w => (a w).expr) :
    UniformForms ctx.dialect Q fun w => formsOf ((Expr.call func args).replace (r w) p) ctx := by
  have hforms : UniformForms ctx.dialect Q fun w =>
      let arguments := argumentForms (listReplace (r w) p 0 args) ctx
      if func.isPredicate then Forms.ofCondition (Call.condition ctx.dialect func arguments)
      else Forms.ofScalar ctx ((Expr.call func args).replace (r w) p)
        (Call.scalar ctx.dialect func arguments) := by
    simp only [has]
    refine .ite (fun _ => ?_) fun _ => ?_
    · exact Forms.ofCondition_uniform h (Call.condition_uniform h huniform hsecond)
    · exact ofScalar_replace h hallows (Call.scalar_uniform h huniform hsecond)
  exact Forms.unlessConstant_uniform h (steady_replace hallows) hforms

/-- Membership in a list, each place of which has a family of values of its own. -/
lemma inList_uniform (h : Stable ctx.dialect Q) (members : List Value)
    (he : ReplacedUniform Q r ctx (0 :: p) e) :
    ReplacedUniform Q r ctx p (.inList e members) := by
  intro hc
  have hmembers : ∀ v ∈ members.mapIdx fun i v w => r w (i :: 1 :: p) v, Bindable Q v := by
    intro u hu
    obtain ⟨i, hi, rfl⟩ := List.mem_mapIdx.mp hu
    exact hc.bindable h (List.mem_append_right _ (List.mem_mapIdx.mpr ⟨i, hi, rfl⟩))
  have hvalues : ∀ w, (members.mapIdx fun i v w => r w (i :: 1 :: p) v).map (· w) =
      members.mapIdx fun i v => r w (i :: 1 :: p) v := by
    intro w
    refine List.ext_getElem? fun i => ?_
    simp only [List.getElem?_map, List.getElem?_mapIdx, Option.map_map]
    rfl
  have hmembership := membership_uniform h (he hc.left).2 hmembers
  simp only [hvalues] at hmembership
  exact Forms.unlessConstant_uniform h (steady_replace hc.allows)
    (Forms.ofCondition_uniform h hmembership)

/-- Membership in a query, whose columns are named and whose filter is written unless it is
refused. -/
lemma inSubquery_uniform (h : Stable ctx.dialect Q) (hx : ReplacedUniform Q r ctx (0 :: p) e)
    (hfilter : Covers Q r (q.literals (1 :: p)) (querySites q (ctx.inside q)) q.tables →
      UniformFilter ctx.dialect Q fun w =>
        queryFilter (q.replace (r w) (1 :: p)) (ctx.inside q)) :
    ReplacedUniform Q r ctx p (.inSubquery e q) := by
  intro hc
  obtain ⟨he, hq⟩ := covers_append.mp hc
  have hfree : (ctx.isCorrelated q && ctx.readsTableOf q) = false →
      Admits (Names Q) (querySites q (ctx.inside q)) ∧ UniformFilter ctx.dialect Q fun w =>
        queryFilter (q.replace (r w) (1 :: p)) (ctx.inside q) := by
    intro hfree
    simp only [hfree, Bool.false_eq_true, if_false] at hq
    exact ⟨hq.columns, hfilter hq⟩
  have hmembership := subqueryMembership_uniform h (hx he).2
    (hq.tables q.table q.table_mem_tables) hfree
  simp only [Expr.replace, formsOf, subqueryMembership_replace, Context.inside_replace]
  exact Forms.ofCondition_uniform h hmembership

/-- Whether a query has a row.  A query that reads a table of a row around it is refused, and its
columns are not named then. -/
lemma exists_uniform (h : Stable ctx.dialect Q) {condition : Option Expr}
    (hfilter : Covers Q r (q.literals (0 :: p)) (querySites q (ctx.enter q true)) q.tables →
      UniformFilter ctx.dialect Q fun w =>
        queryFilter (q.replace (r w) (0 :: p)) (ctx.enter q true))
    (hcondition : Covers Q r (optionLiterals (1 :: p) condition)
        (optionSites condition (ctx.enter q true)) (optionTables condition) →
      UniformFilter ctx.dialect Q fun w =>
        optionCondition (optionReplace (r w) (1 :: p) condition) (ctx.enter q true)) :
    ReplacedUniform Q r ctx p (.exists q condition) := by
  intro hc
  -- The sites of a refused query are not counted, so they are covered only if it is not.
  have hfilters : ctx.readsTableOf q = false →
      (UniformFilter ctx.dialect Q fun w =>
        queryFilter (q.replace (r w) (0 :: p)) (ctx.enter q true)) ∧
      UniformFilter ctx.dialect Q fun w =>
        optionCondition (optionReplace (r w) (1 :: p) condition) (ctx.enter q true) := by
    intro hfree
    rw [Expr.literals, exprSites, hfree, if_neg Bool.false_ne_true, Expr.tables,
      covers_append] at hc
    exact ⟨hfilter hc.1, hcondition hc.2⟩
  have htable := hc.tables q.table (List.mem_append_left _ q.table_mem_tables)
  have hexistence := existence_uniform h htable hfilters
  simp only [Expr.replace, formsOf, existence_replace, Context.enter_replace]
  exact Forms.ofCondition_uniform h hexistence

end Constructors

mutual

/-- Both forms of an expression that is not free itself are uniform. -/
theorem formsOf_uniform : (e : Expr) → (ctx : Context) → (p : Path) → Stable ctx.dialect Q →
    ReplacedUniform Q r ctx p e
  | .value v, _, _, h => value_uniform h v
  | .column ref, _, _, h => column_uniform h ref
  | .unary op e, ctx, p, h => unary_uniform h op (formsOf_uniform e ctx (0 :: p) h)
  | .binary op left right, ctx, p, h =>
    binary_uniform h op (formsOf_uniform left ctx (0 :: p) h)
      (formsOf_uniform right ctx (1 :: p) h)
  | .cast e ty implicit, ctx, p, h =>
    cast_uniform h ty implicit (formsOf_uniform e ctx (0 :: p) h)
  | .conditional test yes no, ctx, p, h =>
    conditional_uniform h (formsOf_uniform test ctx (0 :: p) h)
      (formsOf_uniform yes ctx (1 :: p) h) (formsOf_uniform no ctx (2 :: p) h)
  | .call func args, ctx, p, h => by
    intro hc
    obtain ⟨as, has, huniform, hargs⟩ := argumentForms_uniform args ctx _ p 0 h hc
    -- The second argument of such a call may be folded, so it is not free, and it keeps its value.
    refine call_uniform h hc.allows has huniform fun hreads a ha => hargs 1 a ha ?_
    rw [hreads]
    exact Bool.and_false _
  | .inList e members, ctx, p, h => inList_uniform h members (formsOf_uniform e ctx (0 :: p) h)
  | .inSubquery e q, ctx, p, h =>
    inSubquery_uniform h (formsOf_uniform e ctx (0 :: p) h)
      (queryFilter_uniform q (ctx.inside q) (1 :: p) h)
  | .exists q condition, ctx, p, h =>
    exists_uniform h (queryFilter_uniform q (ctx.enter q true) (0 :: p) h)
      (optionCondition_uniform condition (ctx.enter q true) (1 :: p) h)

/-- The values of arguments are uniform.  An argument that is not free itself is steady. -/
theorem argumentForms_uniform : (es : List Expr) → (ctx : Context) → (free : Nat → Bool) →
    (p : Path) → (i : Nat) → Stable ctx.dialect Q →
      Covers Q r (listLiterals free p i es) (listSites es ctx) (listTables es) →
        ∃ as : List (W → Argument),
          (∀ w, argumentForms (listReplace (r w) p i es) ctx = as.map (· w)) ∧
            Call.Arguments ctx.dialect Q as ∧
              ∀ k a, as[k]? = some a → free (i + k) = false → Steady fun w => (a w).expr
  | [], _, _, _, _, _, _ => ⟨[], fun _ => rfl, List.forall_mem_nil _, by simp⟩
  | e :: es, ctx, free, p, i, h, hc => by
    rw [listLiterals, listSites, listTables, covers_append] at hc
    have he := operand_uniform h hc.1 fun hc => formsOf_uniform e ctx (i :: p) h hc
    obtain ⟨as, has, huniform, hsteady⟩ := argumentForms_uniform es ctx free p (i + 1) h hc.2
    -- The first argument in all replacements at once; the others come from the rest of the list.
    let first : W → Argument := fun w =>
      ⟨e.replace (r w) (i :: p), (formsOf (e.replace (r w) (i :: p)) ctx).scalar⟩
    refine ⟨first :: as, fun w => ?_, List.forall_mem_cons.mpr ⟨he, huniform⟩,
      fun k a ha hfree => ?_⟩
    · rw [listReplace, argumentForms, has w]
      rfl
    · cases k with
      | zero =>
        cases ha
        rw [Nat.add_zero] at hfree
        have hallows := hc.1.allows
        rw [hfree] at hallows
        exact steady_replace hallows
      | succ k =>
        refine hsteady k a ha ?_
        rwa [Nat.add_assoc, Nat.add_comm 1 k]

/-- The condition of an expression that may be absent is uniform. -/
theorem optionCondition_uniform : (o : Option Expr) → (ctx : Context) → (p : Path) →
    Stable ctx.dialect Q → Covers Q r (optionLiterals p o) (optionSites o ctx) (optionTables o) →
      UniformFilter ctx.dialect Q fun w => optionCondition (optionReplace (r w) p o) ctx
  | none, _, _, _, _ => .inl rfl
  | some e, ctx, p, h, hc => .inr ⟨_, rfl, (formsOf_uniform e ctx p h hc).1⟩

/-- The filter of a query is uniform. -/
theorem queryFilter_uniform : (q : Query) → (ctx : Context) → (p : Path) → Stable ctx.dialect Q →
    Covers Q r (q.literals p) (querySites q ctx) q.tables →
      UniformFilter ctx.dialect Q fun w => queryFilter (q.replace (r w) p) ctx
  | ⟨table, source, predicate, _, _, _, _, _, _⟩, ctx, p, h, hc => by
    refine optionCondition_uniform predicate ctx p h ⟨hc.allows, hc.literals, ?_, ?_⟩
    · have hcolumns := hc.columns
      rw [querySites_eq, admits_append] at hcolumns
      exact hcolumns.2
    · exact fun t ht => hc.tables t (List.mem_cons_of_mem table ht)

end

/-- The statement of a query is uniform. -/
theorem ofQuery_uniform {d : Dialect} {q : Query} (h : Stable d Q)
    (hc : Covers Q r (q.literals []) (querySites q (Context.top d q)) q.tables)
    (hlabel : (q.terminal.isCount && (q.isPaged || q.distinct)) = true →
      Q fun _ => [.identifier "t"]) :
    Uniform (fun w => ofQuery d (q.replace (r w) [])) fun f =>
      ∃ s : W → Select, f = (fun w => .select (s w)) ∧ Q fun w => (s w).pieces d := by
  have hfilter := queryFilter_uniform q (Context.top d q) [] h hc
  have hselect := Select.of_uniform h hc.columns (hc.tables q.table q.table_mem_tables) hfilter
    hlabel
  have htop : ∀ w, Context.top d (q.replace (r w) []) = Context.top d q := by
    intro w
    cases q
    rfl
  simp only [ofQuery, htop, Select.of_replace]
  exact hselect.bind fun s hs => .pure ⟨s, rfl, hs⟩

/-- The form of an expression over the row of a query is uniform. -/
theorem ofExpr_uniform {d : Dialect} {q : Query} {e : Expr} (h : Stable d Q)
    (hc : Covers Q r (e.literals false []) (exprSites e (Context.top d q)) e.tables) :
    Uniform (fun w => ofExpr d q (e.replace (r w) [])) fun f => Q fun w => (f w).pieces d := by
  have hforms := formsOf_uniform e (Context.top d q) [] h hc
  simp only [ofExpr, Expr.isPredicate_replace]
  refine .ite ?_ ?_
  · exact hforms.1.bind fun c hc => .pure hc
  · exact hforms.2.bind fun x hx => .pure hx

end Sql

end TableQuery
