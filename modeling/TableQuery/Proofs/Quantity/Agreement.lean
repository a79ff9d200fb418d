import TableQuery.Proofs.Quantity.Operators

/-!
# Texts and exact results agree

Implicit conversions of integers into floats are not written.  Outside divisions that changes no
number: a server that evaluates the text of an expression on a row finds the number of the value
that the expression folds to, if all results on the way are exact (`number_of_compile`).  A quotient
of integers is truncated, though, so this takes that no division of floats is written as one of
integers.  Where one is, the number is another one (`unkept_quotient_truncates`).
-/

namespace TableQuery.Sql

variable {d : Dialect} {q : Query} {row : List Value} {e l r : Expr} {ty tl tr : ColumnType}
  {op : BinaryOp}

/-- Whether both forms of an expression show it. -/
structure Forms.Show (d : Dialect) (q : Query) (row : List Value) (e : Expr) (f : Forms) :
    Prop where
  condition : f.condition.Gives fun c _ => ShownBy q row (IsWritten q e) e (c.phrases d)
  scalar : f.scalar.Gives fun x _ => ShownBy q row (IsWritten q e) e (x.phrases d)

section Forms

/-- A truth value that is written out has that truth value, and so has a condition. -/
lemma quantity?_truthText (columns : String → Option Value) (b : Bool) :
    Phrase.quantity? columns (.word (truthText d b)) = some (.truth b) := by
  cases d <;> cases b <;> rfl

/-- A truth value as a condition has itself. -/
lemma quantity?_truthCond (columns : String → Option Value) (b : Bool) :
    ∃ p, (truth b).phrases d = [p] ∧ p.quantity? columns = some (.truth b) := by
  refine ⟨_, rfl, ?_⟩
  cases b <;> rfl

/-- The quantity of a truth value is one or zero. -/
lemma number?_of_measures {x : Quantity} {b : Bool} (h : x.Measures (.bool b)) :
    x.number? = some ((if b then 1 else 0 : ℤ) : ℚ) := by
  obtain ⟨m, hxm, hvm⟩ := h
  exact hxm.trans hvm.symm

/-- A constant of a kind has its quantity where it is bound. -/
lemma foldsPresent_of_hasKind (hrow : q.table.Holds row) (h : e.HasKind q.table q.source ty)
    (hconst : e.isConst = true) :
    FoldsPresent
      (fun x => ShownBy q row (fun x => x.isFraction = (ty == .float)) e (x.phrases d)) e := by
  intro v hv
  have hty := h.type?_of_fold hrow
  rw [Expr.onRow_of_isConst e hconst] at hty
  exact ⟨Value.isNull_of_type? (hty v hv), ShownBy.constant hrow h hconst hv⟩

/-- The forms of a constant. -/
lemma Forms.ofConstant_show (hrow : q.table.Holds row) (h : e.HasKind q.table q.source ty)
    (hconst : e.isConst = true) (hwrites : e.writesFloat q.columnType = (ty == .float)) :
    (Forms.ofConstant e).Show d q row e where
  condition := by
    refine Forms.ofConstant_condition_gives fun b hb => ?_
    have hty := h.type?_of_fold hrow
    rw [Expr.onRow_of_isConst e hconst] at hty
    cases hty _ hb
    obtain ⟨p, hp, hquantity⟩ := quantity?_truthCond (d := d) (valuesOn q.table row) b
    rw [hp]
    refine ShownBy.of_truth hrow h fun _ _ c hc => ?_
    rw [Expr.onRow_of_isConst e hconst, hb] at hc
    cases hc
    exact hquantity
  scalar := by
    have hpresent := foldsPresent_of_hasKind (d := d) hrow h hconst
    exact Forms.ofConstant_scalar_gives
      (hpresent.mono fun _ hx => hx.mono fun _ hx => hx.trans hwrites.symm)

/-- The forms of what may be constant. -/
lemma Forms.unlessConstant_show {f : Forms} (hrow : q.table.Holds row)
    (h : e.HasKind q.table q.source ty)
    (hwrites : e.isConst = true → e.writesFloat q.columnType = (ty == .float))
    (hf : ¬ e.isConst = true → f.Show d q row e) : (Forms.unlessConstant e f).Show d q row e := by
  unfold Forms.unlessConstant
  split
  case isTrue hconst => exact Forms.ofConstant_show hrow h hconst (hwrites hconst)
  case isFalse hconst => exact hf hconst

/-- The forms of a condition. -/
lemma Forms.ofCondition_show {c : Emit Cond} (hrow : q.table.Holds row)
    (h : e.HasKind q.table q.source .bool)
    (hc : c.Gives fun c _ => ShownBy q row (IsWritten q e) e (c.phrases d)) :
    (Forms.ofCondition c).Show d q row e where
  condition := hc
  scalar := by
    refine hc.bind fun c _ hc => .pure ?_
    obtain ⟨p, hp, hc⟩ := hc
    have hphrases : (chosen c (.truth true) (.truth false)).phrases d =
        [.group [.word "CASE", .word "WHEN", p, .word "THEN", .word (truthText d true),
          .word "ELSE", .word (truthText d false), .word "END"]] := by
      show [Phrase.group (.word "CASE" :: .word "WHEN" :: (c.phrases d ++ _))] = _
      rw [hp]
      rfl
    rw [hphrases]
    refine ShownBy.of_truth hrow h fun hexact hkeeps b hb => ?_
    obtain ⟨x, hx, hmeasures, -⟩ := hc hexact hkeeps _ hb
    show (p.quantity? (valuesOn q.table row)).bind (fun x => if x.number? = some 1 then
      Phrase.quantity? (valuesOn q.table row) (.word (truthText d true))
      else Phrase.quantity? (valuesOn q.table row) (.word (truthText d false))) = _
    rw [hx, Option.bind_some, quantity?_truthText, quantity?_truthText,
      number?_of_measures hmeasures]
    cases b with
    | false => exact if_neg fun h => zero_ne_one (Int.cast_zero.symm.trans (Option.some.inj h))
    | true => exact if_pos (congrArg some Int.cast_one)

/-- The forms of a value. -/
lemma Forms.ofScalar_show {x : Emit Scalar} (hrow : q.table.Holds row)
    (h : e.HasKind q.table q.source ty)
    (hx : x.Gives fun x _ => ShownBy q row (IsWritten q e) e (x.phrases d)) :
    (Forms.ofScalar (Context.top d q) e x).Show d q row e where
  condition := by
    have hinfer : (Context.top d q).inferType e = some ty :=
      h.inferType fun _ _ => columnType_top
    refine Forms.ofScalar_condition_gives hinfer hx ?_
    rintro rfl x hx
    obtain ⟨p, hp, hx⟩ := hx
    have hphrases : (compared .equal x (.truth true)).phrases d =
        [.group [p, .symbol "=", .word (truthText d true)]] := by
      show [Phrase.group (x.phrases d ++ _)] = _
      rw [hp]
      rfl
    rw [hphrases]
    refine ShownBy.of_truth hrow h fun hexact hkeeps b hb => ?_
    obtain ⟨y, hy, hmeasures, -⟩ := hx hexact hkeeps _ hb
    have hequal : measured BinaryOp.equal.symbol y (.truth true) = some (.truth b) := by
      rw [measured_of_comparison rfl (number?_of_measures hmeasures) rfl, compare_intCast]
      cases b <;> rfl
    rw [quantity?_sign, hy, quantity?_truthText]
    exact hequal
  scalar := hx

end Forms

section Expressions

/-- A comparison.  If only one operand is a constant, it is on the right. -/
lemma comparison_show {left right : Emit Scalar} (hrow : q.table.Holds row)
    (hop : op.isComparison = true) (hboth : tl = .bool ↔ tr = .bool)
    (hl : l.HasKind q.table q.source tl) (hr : r.HasKind q.table q.source tr)
    (hconst : ¬ (l.isConst && r.isConst) = true)
    (hleft : left.Gives fun x _ => ShownBy q row (IsWritten q l) l (x.phrases d))
    (hright : right.Gives fun x _ => ShownBy q row (IsWritten q r) r (x.phrases d)) :
    (comparison op l r left right).Gives fun c _ =>
      ShownBy q row (IsWritten q (.binary op l r)) (.binary op l r) (c.phrases d) := by
  -- How the operands take part in arithmetic does not matter for a comparison.
  have hany : ∀ {e : Expr} {P : Quantity → Prop} {ps : List Phrase}, ShownBy q row P e ps →
      ShownBy q row (fun _ => True) e ps := fun h => h.mono fun _ _ => trivial
  refine comparison_gives
    (fun h => (foldsPresent_of_hasKind hrow hl h).mono fun _ => hany)
    (fun h => (foldsPresent_of_hasKind hrow hr h).mono fun _ => hany)
    (fun x hx => hany (hleft x hx)) (fun y hy => hany (hright y hy)) ?_ ?_
  · exact fun _ _ hx hy => (comparison_shown hrow hop hboth hl hr hconst hx hy).1
  · exact fun _ _ hx hy => (comparison_shown hrow hop hboth hl hr hconst hx hy).2

/-- Arithmetic on numbers is written with its sign between the operands. -/
lemma elementary_show {left right : Emit Scalar} {P P' Q : List Phrase → Prop}
    (hop : op.isElementary = true) (htl : tl.IsNumber) (htr : tr.IsNumber)
    (hl : l.HasKind q.table q.source tl) (hr : r.HasKind q.table q.source tr)
    (hleft : left.Gives fun x _ => P (x.phrases d))
    (hright : right.Gives fun x _ => P' (x.phrases d))
    (h : ∀ ps qs, P ps → P' qs → Q [.group (ps ++ .symbol op.symbol :: qs)]) :
    (arithmetic (Context.top d q) op l r left right).Gives fun x _ => Q (x.phrases d) := by
  have htext : ∀ {e : Expr} {ty : ColumnType}, e.HasKind q.table q.source ty → ty.IsNumber →
      (Context.top d q).inferType e ≠ some .text := by
    intro e ty he hty heq
    have hinfer : (Context.top d q).inferType e = some ty :=
      he.inferType fun _ _ => columnType_top
    rw [hinfer] at heq
    obtain rfl | rfl := hty <;> cases heq
  obtain ⟨hcoalesce, hexclusive, -⟩ := BinaryOp.not_of_isElementary hop
  exact arithmetic_gives hcoalesce (htext hl htl) (htext hr htr) hleft hright
    (fun x y hx hy => h _ _ hx hy) fun heq => absurd heq hexclusive

/-- An integer is no conversion that could be looked through. -/
lemma stripWidening_of_int {ctx : Context} (h : e.HasKind q.table q.source .int) :
    stripWidening ctx e = e := by
  generalize hty : ColumnType.int = ty at h
  cases h with
  | widen => cases hty
  | _ => rfl

/-- Both forms of an expression that is made of numbers show it. -/
theorem formsOf_show (hrow : q.table.Holds row) (h : e.HasKind q.table q.source ty) :
    (formsOf e (Context.top d q)).Show d q row e := by
  -- Both forms at once: the value of a test is made of its condition, and the other way around.
  induction h with
  | @value v ty hnumber hv =>
    have htype : (Expr.value v).HasKind q.table q.source ty := .value hnumber hv
    exact Forms.ofConstant_show hrow htype rfl (inferType_isFloat htype)
  | @column ref c hnumber hsource hc =>
    have htype : (Expr.column ref).HasKind q.table q.source c.ty := .column hnumber hsource hc
    exact Forms.ofScalar_show hrow htype (column_shown hrow htype hsource hc)
  | @negate e ty hnumber he ih =>
    have htype : (Expr.unary .negate e).HasKind q.table q.source ty := .negate hnumber he
    refine Forms.unlessConstant_show hrow htype (writesFloat_unary htype) fun hconst => ?_
    refine Forms.ofScalar_show hrow htype (ih.scalar.bind fun x _ hx => .pure ?_)
    exact negate_shown hconst hx
  | @whole op l r hop hl hr ihl ihr =>
    have htype : (Expr.binary op l r).HasKind q.table q.source .int := .whole hop hl hr
    refine Forms.unlessConstant_show hrow htype (writesFloat_binary htype) fun hconst => ?_
    obtain ⟨-, -, hlogical, hcomparison⟩ := BinaryOp.not_of_isElementary hop
    rw [if_neg hlogical, if_neg hcomparison]
    refine Forms.ofScalar_show hrow htype
      (elementary_show hop (.inl rfl) (.inl rfl) hl hr ihl.scalar ihr.scalar fun ps qs hx hy => ?_)
    exact whole_shown hrow hop hl hr hconst hx hy
  | @mixed op l r tl tr hop htl htr hfloat hl hr ihl ihr =>
    have htype : (Expr.binary op l r).HasKind q.table q.source .float :=
      .mixed hop htl htr hfloat hl hr
    refine Forms.unlessConstant_show hrow htype (writesFloat_binary htype) fun hconst => ?_
    obtain ⟨-, -, hlogical, hcomparison⟩ := BinaryOp.not_of_isElementary hop
    rw [if_neg hlogical, if_neg hcomparison]
    refine Forms.ofScalar_show hrow htype
      (elementary_show hop htl htr hl hr ihl.scalar ihr.scalar fun ps qs hx hy => ?_)
    exact mixed_shown hrow hop hfloat htype hl hr hconst hx hy
  | @coalesce l r tl tr hl hr ihl ihr =>
    have htype : (Expr.binary .coalesce l r).HasKind q.table q.source tl := .coalesce hl hr
    refine Forms.unlessConstant_show hrow htype (writesFloat_binary htype) fun hconst => ?_
    refine Forms.ofScalar_show hrow htype ?_
    unfold arithmetic
    refine ihl.scalar.bind fun x _ hx => ihr.scalar.bind fun y _ hy => ?_
    rw [if_pos rfl]
    obtain ⟨p, hp, -⟩ := hy
    exact .pure (coalesce_shown hrow hl hconst hx ⟨p, hp⟩)
  | @comparison op l r tl tr hop hboth hl hr ihl ihr =>
    have htype : (Expr.binary op l r).HasKind q.table q.source .bool :=
      .comparison hop hboth hl hr
    refine Forms.unlessConstant_show hrow htype (writesFloat_binary htype) fun hconst => ?_
    rw [if_neg (BinaryOp.not_isLogical_of_isComparison hop), if_pos hop]
    exact Forms.ofCondition_show hrow htype
      (comparison_show hrow hop hboth hl hr hconst ihl.scalar ihr.scalar)
  | @widen e he ih =>
    have htype : (Expr.cast e .float true).HasKind q.table q.source .float := .widen he
    have hwidening : isWidening (Context.top d q) e .float true = true := by
      have hinfer : (Context.top d q).inferType e = some .int :=
        he.inferType fun _ _ => columnType_top
      rw [isWidening, stripWidening_of_int he, hinfer]
      rfl
    rw [formsOf, if_pos hwidening]
    refine ⟨?_, fun x hx => widen_shown (ih.scalar x hx)⟩
    -- A float is no condition, converted or not.
    change (Forms.unlessConstant _ (Forms.ofScalar _ _ _)).condition.Gives _
    unfold Forms.unlessConstant
    split
    case isTrue hconst =>
      refine .lift_bind fun v hv => ?_
      have hty := htype.type?_of_fold hrow
      rw [Expr.onRow_of_isConst _ hconst] at hty
      obtain ⟨x, rfl⟩ := Value.float_of_type? (hty v (fold_of_constant hv))
      exact .fail
    case isFalse => exact .fail

/-- The text of an expression shows the number that it folds to. -/
lemma ofExpr_show (hrow : q.table.Holds row) (h : e.HasKind q.table q.source ty) :
    (ofExpr d q e).Gives fun f _ => ShownBy q row (IsWritten q e) e (f.phrases d) := by
  have hforms := formsOf_show (d := d) hrow h
  unfold ofExpr
  split
  case isTrue => exact hforms.condition.bind fun c _ hc => .pure hc
  case isFalse => exact hforms.scalar.bind fun x _ hx => .pure hx

/-- The number of the text of a statement on a row, with the parameters of the statement. -/
def Statement.number? (d : Dialect) (columns : String → Option Value) (st : Statement) :
    Option ℚ :=
  ((st.phrases? d).bind (Sql.quantity? columns)).bind Quantity.number?

/-- If an expression that is made of numbers is compiled to a statement, and if it folds to a value
with exact results only when the values of a row without null stand for its columns, then the text
of the statement has the number of that value on the row, as long as each division of floats that is
written out keeps a float as an operand. -/
theorem number_of_compile {st : Statement} {v : Value} (hrow : q.table.Holds row)
    (hkind : e.HasKind q.table q.source ty) (hkeeps : e.KeepsQuotients q.columnType)
    (h : e.compile d q = .ok st) (hv : (e.onRow row).fold = .ok v)
    (hexact : (e.onRow row).Exact) :
    ∃ x, st.number? d (valuesOn q.table row) = some x ∧ v.number? = some x := by
  obtain ⟨f, hf, -, hread⟩ := Statement.phrases?_of h (ofExpr_carries (admits_true _))
  obtain ⟨p, hp, hshown⟩ := ofExpr_show hrow hkind f hf
  obtain ⟨x, hx, ⟨m, hxm, hvm⟩, -⟩ := hshown hexact hkeeps v hv
  have hsingle : Sql.quantity? (valuesOn q.table row) [p] =
      p.quantity? (valuesOn q.table row) := rfl
  refine ⟨m, ?_, hvm⟩
  rw [Statement.number?, hread, hp, Option.bind_some, hsingle, hx]
  exact hxm

/-- A table of races. -/
def raceTable : Table :=
  .of "Race"
    [⟨"laps", "Laps", .int, false, false⟩, ⟨"stops", "Stops", .int, false, false⟩,
      ⟨"minutes", "Minutes", .float, false, false⟩] (by decide)

/-- Whether a lap of a race took less than five minutes. -/
def isFastRace : Expr :=
  .binary .lessThan
    (.binary .divide (.column ⟨⟨0⟩, 2⟩) (.cast (.column ⟨⟨0⟩, 0⟩) .float true))
    (.cast (.value (.int 5)) .float true)

/-- The statement of the test of races. -/
def isFastRaceStatement : Statement where
  text := "(([minutes] / [laps]) < $p1)"
  parameters := [.float 5]

/-- A race of four laps in fourteen minutes. -/
def shortRace : List Value := [.int 4, .int 2, .float 14]

/-- The row of the short race is one of the table of races. -/
lemma shortRace_holds : raceTable.Holds shortRace := by
  intro i c hc
  match i, hc with
  | 0, hc | 1, hc | 2, hc =>
    cases hc
    exact ⟨_, rfl, rfl⟩

/-- Laps are integers. -/
lemma hasKind_laps : Expr.HasKind raceTable ⟨0⟩ (.column ⟨⟨0⟩, 0⟩) .int :=
  .column (c := ⟨"laps", "Laps", .int, false, false⟩) (.inl rfl) rfl rfl

/-- Stops are integers. -/
lemma hasKind_stops : Expr.HasKind raceTable ⟨0⟩ (.column ⟨⟨0⟩, 1⟩) .int :=
  .column (c := ⟨"stops", "Stops", .int, false, false⟩) (.inl rfl) rfl rfl

/-- Minutes are floats. -/
lemma hasKind_minutes : Expr.HasKind raceTable ⟨0⟩ (.column ⟨⟨0⟩, 2⟩) .float :=
  .column (c := ⟨"minutes", "Minutes", .float, false, false⟩) (.inr rfl) rfl rfl

/-- All results are exact in the test for a fast race. -/
lemma isFastRace_exact : (isFastRace.onRow shortRace).Exact := by
  refine ⟨⟨⟨14, by decide +kernel⟩, ⟨⟨4, by decide +kernel⟩, ?_⟩, ?_⟩,
    ⟨⟨5, by decide +kernel⟩, ?_⟩, ?_⟩
  · rintro _ _ ⟨⟩ ⟨⟩
    decide +kernel
  · rintro _ _ ⟨⟩ ⟨⟩
    refine .inr ?_
    rintro _ ⟨⟩
    exact ⟨14, 4, 7 / 2, by decide +kernel, by decide +kernel, by decide +kernel,
      by decide +kernel⟩
  · rintro _ _ ⟨⟩ ⟨⟩
    decide +kernel
  · rintro _ _ ⟨⟩ ⟨⟩
    exact .inr ⟨_, _, rfl, rfl, by decide +kernel, by decide +kernel⟩

set_option maxRecDepth 8000 in
/-- Fourteen minutes for four laps are three and a half, with the conversion written or not. -/
theorem number_of_compile_race :
    raceTable.Holds shortRace ∧ isFastRace.HasKind raceTable ⟨0⟩ .bool ∧
      isFastRace.KeepsQuotients (Query.all raceTable ⟨0⟩).columnType ∧
      isFastRace.compile .sqlite (Query.all raceTable ⟨0⟩) = .ok isFastRaceStatement ∧
      (isFastRace.onRow shortRace).fold = .ok (.bool true) ∧
      (isFastRace.onRow shortRace).Exact ∧
      isFastRaceStatement.number? .sqlite (valuesOn raceTable shortRace) = some 1 := by
  have hkind : isFastRace.HasKind raceTable ⟨0⟩ .bool :=
    .comparison rfl Iff.rfl
      (.mixed rfl (.inr rfl) (.inr rfl) (.inl rfl) hasKind_minutes (.widen hasKind_laps))
      (.widen (.value (.inl rfl) rfl))
  have hkeeps : isFastRace.KeepsQuotients (Query.all raceTable ⟨0⟩).columnType :=
    .inr ⟨.inr ⟨trivial, fun _ => trivial, fun _ _ => .inl rfl⟩, fun _ => trivial, nofun⟩
  have hcompile : isFastRace.compile .sqlite (Query.all raceTable ⟨0⟩) =
    .ok isFastRaceStatement := rfl
  have hfold : (isFastRace.onRow shortRace).fold = .ok (.bool true) := by rfl
  obtain ⟨x, hx, hone⟩ := number_of_compile (q := Query.all raceTable ⟨0⟩) shortRace_holds hkind
    hkeeps hcompile hfold isFastRace_exact
  refine ⟨shortRace_holds, hkind, hkeeps, hcompile, hfold, isFastRace_exact, ?_⟩
  have htrue : (Value.bool true).number? = some 1 := congrArg some Int.cast_one
  exact hx.trans (hone.symm.trans htrue)

/-- How many laps and stops there are for each stop of a race. -/
def lapsForStop : Expr :=
  .binary .divide
    (.cast (.binary .add (.column ⟨⟨0⟩, 0⟩) (.column ⟨⟨0⟩, 1⟩)) .float true) (.column ⟨⟨0⟩, 1⟩)

/-- The statement of laps and stops for each stop. -/
def lapsForStopStatement : Statement where
  text := "(([laps] + [stops]) / [stops])"
  parameters := []

/-- A race of five laps with two stops. -/
def longRace : List Value := [.int 5, .int 2, .float 14]

/-- A division of floats that is written as one of integers truncates: seven laps and stops are
three for each of two stops, where the expression folds to three and a half. -/
theorem unkept_quotient_truncates :
    raceTable.Holds longRace ∧ lapsForStop.HasKind raceTable ⟨0⟩ .float ∧
      lapsForStop.compile .sqlite (Query.all raceTable ⟨0⟩) = .ok lapsForStopStatement ∧
      (lapsForStop.onRow longRace).fold = .ok (.float 3.5) ∧
      (lapsForStop.onRow longRace).Exact ∧
      lapsForStopStatement.number? .sqlite (valuesOn raceTable longRace) = some 3 ∧
      (Value.float 3.5).number? = some (7 / 2) := by
  have hrow : raceTable.Holds longRace := by
    intro i c hc
    match i, hc with
    | 0, hc | 1, hc | 2, hc =>
      cases hc
      exact ⟨_, rfl, rfl⟩
  have hkind : lapsForStop.HasKind raceTable ⟨0⟩ .float :=
    .mixed rfl (.inr rfl) (.inl rfl) (.inl rfl) (.widen (.whole rfl hasKind_laps hasKind_stops))
      hasKind_stops
  have hcompile : lapsForStop.compile .sqlite (Query.all raceTable ⟨0⟩) =
    .ok lapsForStopStatement := rfl
  have hexact : (lapsForStop.onRow longRace).Exact := by
    refine ⟨⟨⟨⟨5, by decide +kernel⟩, ⟨2, by decide +kernel⟩, ?_⟩, ?_⟩, ⟨2, by decide +kernel⟩, ?_⟩
    · rintro _ _ ⟨⟩ ⟨⟩
      exact .inl ⟨nofun, nofun⟩
    · rintro _ _ ⟨⟩ ⟨⟩
      decide +kernel
    · rintro _ _ ⟨⟩ ⟨⟩
      refine .inr ?_
      rintro _ ⟨⟩
      exact ⟨7, 2, 7 / 2, by decide +kernel, by decide +kernel, by decide +kernel,
        by decide +kernel⟩
  refine ⟨hrow, hkind, hcompile, ?_, hexact, ?_, by decide +kernel⟩
  · have hquotient : Number.floatOfInt 7 / Number.floatOfInt 2 = 3.5 := by decide +kernel
    rw [← hquotient]
    rfl
  · obtain ⟨f, hf, -, hread⟩ := Statement.phrases?_of hcompile (ofExpr_carries (admits_true _))
    cases hf
    rw [Statement.number?, hread]
    exact congrArg some (Int.cast_ofNat 3)

end Expressions

end TableQuery.Sql
