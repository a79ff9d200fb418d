import TableQuery.Proofs.Quantity.Writing

/-!
# Operators on numbers as they are written

A phrase shows an expression if its quantity has the number of the value that the expression folds
to and takes part in arithmetic as the expression is written (`ShownBy`).  There is one lemma for
each kind of expression over numbers: if phrases show its operands, the phrase that is written for
it shows the expression.
-/

namespace TableQuery

/-- Whether a quantity and a value have one number. -/
def Quantity.Measures (x : Quantity) (v : Value) : Prop :=
  ∃ m, x.number? = some m ∧ v.number? = some m

namespace Sql

/-- Whether phrases are a single one, whose quantity has a property and the number of the value that
an expression folds to on a row, if the expression has exact results and keeps its quotients. -/
def ShownBy (q : Query) (row : List Value) (P : Quantity → Prop) (e : Expr) (ps : List Phrase) :
    Prop :=
  ∃ p, ps = [p] ∧ ((e.onRow row).Exact → e.KeepsQuotients q.columnType →
    ∀ v, (e.onRow row).fold = .ok v →
      ∃ x, p.quantity? (valuesOn q.table row) = some x ∧ x.Measures v ∧ P x)

/-- Whether a quantity takes part in arithmetic as an expression is written. -/
def IsWritten (q : Query) (e : Expr) (x : Quantity) : Prop :=
  x.isFraction = e.writesFloat q.columnType

variable {d : Dialect} {q : Query} {row : List Value} {e l r : Expr} {ty tl tr : ColumnType}
  {op : BinaryOp} {P Q : Quantity → Prop} {ps qs : List Phrase} {v : Value}

/-- A property that follows from another one is had too. -/
lemma ShownBy.mono (h : ShownBy q row P e ps) (hPQ : ∀ x, P x → Q x) : ShownBy q row Q e ps := by
  obtain ⟨p, hp, h⟩ := h
  refine ⟨p, hp, fun hexact hkeeps v hv => ?_⟩
  obtain ⟨x, hx, hmeasures, hP⟩ := h hexact hkeeps v hv
  exact ⟨x, hx, hmeasures, hPQ x hP⟩

section Operands

/-- The quantity of a value is a fraction just if it is of the class of floats. -/
lemma measures_of_fold (hrow : q.table.Holds row) (h : e.HasKind q.table q.source ty)
    (hexact : (e.onRow row).Exact) (hv : (e.onRow row).fold = .ok v) :
    ∃ x, v.quantity? = some x ∧ x.Measures v ∧ x.isFraction = (ty == .float) := by
  obtain ⟨m, hm⟩ := h.number?_of_fold hrow hexact hv
  obtain ⟨x, hx, hxm, hfraction⟩ := Value.quantity?_of_number? (h.type?_of_fold hrow v hv) hm
  exact ⟨x, hx, ⟨m, hxm, hm⟩, hfraction⟩

/-- A constant where it is bound. -/
lemma ShownBy.constant (hrow : q.table.Holds row) (h : e.HasKind q.table q.source ty)
    (hconst : e.isConst = true) (hv : e.fold = .ok v) :
    ShownBy q row (fun x => x.isFraction = (ty == .float)) e [.value v] := by
  refine ⟨_, rfl, fun hexact _ w hw => ?_⟩
  have hmeasures := measures_of_fold hrow h hexact hw
  rw [Expr.onRow_of_isConst e hconst, hv] at hw
  cases hw
  exact hmeasures

/-- A phrase with the truth value that an expression folds to. -/
lemma ShownBy.of_truth {p : Phrase} (hrow : q.table.Holds row)
    (h : e.HasKind q.table q.source .bool)
    (hp : (e.onRow row).Exact → e.KeepsQuotients q.columnType →
      ∀ b, (e.onRow row).fold = .ok (.bool b) →
        p.quantity? (valuesOn q.table row) = some (.truth b)) :
    ShownBy q row (IsWritten q e) e [p] := by
  refine ⟨p, rfl, fun hexact hkeeps v hv => ?_⟩
  obtain ⟨b, rfl⟩ := Value.bool_of_type? (h.type?_of_fold hrow v hv)
  exact ⟨.truth b, hp hexact hkeeps b hv, ⟨_, rfl, rfl⟩, (writesFloat_eq_false h nofun).symm⟩

/-- A column of the query itself. -/
lemma column_shown {ref : ColumnRef} {c : Column} (hrow : q.table.Holds row)
    (h : (Expr.column ref).HasKind q.table q.source c.ty) (hsource : ref.source = q.source)
    (hc : q.table.column? ref.column = some c) :
    Emit.Gives (do return Scalar.column (← Emit.lift ((Context.top d q).columnName ref)))
      fun x _ => ShownBy q row (IsWritten q (.column ref)) (.column ref) (x.phrases d) := by
  refine column_gives hsource hc ⟨_, rfl, fun hexact _ v hv => ?_⟩
  obtain ⟨x, hx, hmeasures, hfraction⟩ := measures_of_fold hrow h hexact hv
  refine ⟨x, ?_, hmeasures, hfraction.trans (inferType_isFloat h).symm⟩
  obtain ⟨w, hw, -⟩ := hrow ref.column c hc
  rw [Expr.onRow, hw] at hv
  cases hv
  show (valuesOn q.table row c.name).bind Value.quantity? = _
  rw [valuesOn_name hc hw]
  exact hx

end Operands

section Numbers

/-- A negated number, in parentheses. -/
lemma negate_shown (hconst : ¬ e.isConst = true) (hx : ShownBy q row (IsWritten q e) e ps) :
    ShownBy q row (IsWritten q (.unary .negate e)) (.unary .negate e)
      [.group (.symbol "-" :: ps)] := by
  obtain ⟨p, rfl, hx⟩ := hx
  refine ⟨_, rfl, fun hexact hkeeps v hv => ?_⟩
  obtain ⟨he, hnegate⟩ := hexact
  obtain ⟨a, ha, hv⟩ := fold_unary hv
  obtain ⟨x, hx, ⟨m, hxm, ham⟩, hwritten⟩ := hx he hkeeps a ha
  obtain ⟨n, han, hvn⟩ := hnegate a v ha hv
  obtain rfl : m = n := Option.some.inj (ham.symm.trans han)
  obtain ⟨z, hz, hzm, hfraction⟩ := turned_minus hxm
  refine ⟨z, ?_, ⟨-m, hzm, hvn⟩, ?_⟩
  · show (p.quantity? (valuesOn q.table row)).bind (turned "-") = _
    rw [hx]
    exact hz
  · rw [IsWritten, Expr.writesFloat, if_neg hconst, hfraction]
    exact hwritten

/-- An implicit widening, which is not written. -/
lemma widen_shown (hx : ShownBy q row (IsWritten q e) e ps) :
    ShownBy q row (IsWritten q (.cast e ty true)) (.cast e ty true) ps := by
  obtain ⟨p, hp, hx⟩ := hx
  refine ⟨p, hp, fun hexact hkeeps v hv => ?_⟩
  obtain ⟨he, hcast⟩ := hexact
  obtain ⟨a, ha, hv⟩ := fold_cast hv
  obtain ⟨x, hx, ⟨m, hxm, ham⟩, hwritten⟩ := hx he hkeeps a ha
  exact ⟨x, hx, ⟨m, hxm, (hcast a v ha hv).trans ham⟩, hwritten⟩

/-- The first of two values that is not null. -/
lemma coalesce_shown (hrow : q.table.Holds row) (hl : l.HasKind q.table q.source tl)
    (hconst : ¬ (l.isConst && r.isConst) = true) (hx : ShownBy q row (IsWritten q l) l ps)
    (hy : ∃ p, qs = [p]) :
    ShownBy q row (IsWritten q (.binary .coalesce l r)) (.binary .coalesce l r)
      [.call "COALESCE" (ps ++ .mark ',' :: qs)] := by
  obtain ⟨p, rfl, hx⟩ := hx
  obtain ⟨p', rfl⟩ := hy
  refine ⟨_, rfl, fun hexact hkeeps v hv => ?_⟩
  have ha := fold_coalesce (hl.type?_of_fold hrow) hv
  obtain ⟨x, hx, ⟨m, hxm, hvm⟩, hwritten⟩ := hx hexact (keeps_operands hconst hkeeps).1 v ha
  refine ⟨x, ?_, ⟨m, hxm, hvm⟩, ?_⟩
  · show firstMeasured [p.quantity? (valuesOn q.table row), p'.quantity? (valuesOn q.table row)] = _
    rw [hx]
    cases x with
    | null => cases hxm
    | _ => rfl
  · rw [IsWritten, writesFloat_coalesce hconst]
    exact hwritten

/-- The quantity of an operator between two phrases. -/
lemma quantity?_sign (columns : String → Option Value) (s : String) (p p' : Phrase) :
    Phrase.quantity? columns (.group [p, .symbol s, p']) =
      (p.quantity? columns).bind fun x => (p'.quantity? columns).bind (measured s x) := rfl

/-- An elementary operator, in parentheses. -/
lemma elementary_shown (hop : op.isElementary = true) (hconst : ¬ (l.isConst && r.isConst) = true)
    (hx : ShownBy q row (IsWritten q l) l ps) (hy : ShownBy q row (IsWritten q r) r qs)
    (h : ∀ a b v x y, (l.onRow row).fold = .ok a → (r.onRow row).fold = .ok b →
      Fold.Exact op a b → Fold.binary op a b = .ok v →
      (Expr.binary op l r).KeepsQuotients q.columnType →
      x.Measures a → IsWritten q l x → y.Measures b → IsWritten q r y →
      ∃ z, measured op.symbol x y = some z ∧ z.Measures v ∧
        z.isFraction = (x.isFraction || y.isFraction)) :
    ShownBy q row (IsWritten q (.binary op l r)) (.binary op l r)
      [.group (ps ++ .symbol op.symbol :: qs)] := by
  obtain ⟨p, rfl, hx⟩ := hx
  obtain ⟨p', rfl, hy⟩ := hy
  refine ⟨_, rfl, fun hexact hkeeps v hv => ?_⟩
  obtain ⟨hcoalesce, -⟩ := BinaryOp.not_of_isElementary hop
  obtain ⟨hle, hre, hexact⟩ := exact_of_elementary hop hexact
  obtain ⟨hkl, hkr, -⟩ := keeps_operands hconst hkeeps
  obtain ⟨a, b, ha, hb, hv⟩ := fold_elementary hop hv
  obtain ⟨x, hx, hxa, hxw⟩ := hx hle hkl a ha
  obtain ⟨y, hy, hyb, hyw⟩ := hy hre (hkr hcoalesce) b hb
  obtain ⟨z, hz, hzv, hfraction⟩ := h a b v x y ha hb (hexact a b ha hb) hv hkeeps hxa hxw hyb hyw
  refine ⟨z, ?_, hzv, ?_⟩
  · show Phrase.quantity? _ (.group [p, .symbol op.symbol, p']) = _
    rw [quantity?_sign, hx, hy]
    exact hz
  · rw [IsWritten, writesFloat_elementary hop hconst, hfraction, hxw, hyw]

/-- Arithmetic on integers is written as such, and truncates as folding does. -/
lemma whole_shown (hrow : q.table.Holds row) (hop : op.isElementary = true)
    (hl : l.HasKind q.table q.source .int) (hr : r.HasKind q.table q.source .int)
    (hconst : ¬ (l.isConst && r.isConst) = true) (hx : ShownBy q row (IsWritten q l) l ps)
    (hy : ShownBy q row (IsWritten q r) r qs) :
    ShownBy q row (IsWritten q (.binary op l r)) (.binary op l r)
      [.group (ps ++ .symbol op.symbol :: qs)] := by
  apply elementary_shown hop hconst hx hy
  rintro a b v x y ha hb - hv - ⟨m, hxm, ham⟩ hxw ⟨n, hyn, hbn⟩ hyw
  obtain ⟨i, rfl⟩ := Value.int_of_type? (hl.type?_of_fold hrow a ha)
  obtain ⟨j, rfl⟩ := Value.int_of_type? (hr.type?_of_fold hrow b hb)
  have hlw : l.writesFloat q.columnType = false := writesFloat_eq_false hl nofun
  have hrw : r.writesFloat q.columnType = false := writesFloat_eq_false hr nofun
  -- No operand is written as a fraction, so both are the integers themselves.
  obtain rfl : x = .whole i.toInt := eq_whole (hxm.trans ham.symm) (hxw.trans hlw)
  obtain rfl : y = .whole j.toInt := eq_whole (hyn.trans hbn.symm) (hyw.trans hrw)
  obtain ⟨k, rfl, hk⟩ := wholly_of_binary hop hv
  exact ⟨.whole k.toInt, hk, ⟨k.toInt, rfl, rfl⟩, rfl⟩

/-- Arithmetic on floats, also written on integers, as long as no quotient is truncated. -/
lemma mixed_shown (hrow : q.table.Holds row) (hop : op.isElementary = true)
    (hfloat : tl = .float ∨ tr = .float) (h : (Expr.binary op l r).HasKind q.table q.source .float)
    (hl : l.HasKind q.table q.source tl) (hr : r.HasKind q.table q.source tr)
    (hconst : ¬ (l.isConst && r.isConst) = true) (hx : ShownBy q row (IsWritten q l) l ps)
    (hy : ShownBy q row (IsWritten q r) r qs) :
    ShownBy q row (IsWritten q (.binary op l r)) (.binary op l r)
      [.group (ps ++ .symbol op.symbol :: qs)] := by
  apply elementary_shown hop hconst hx hy
  rintro a b v x y ha hb hexact hv hkeeps ⟨m, hxm, ham⟩ hxw ⟨n, hyn, hbn⟩ hyw
  obtain ⟨m', n', k, ham', hbn', hk, hvk⟩ := number?_of_exact hop hfloat
    (hl.type?_of_fold hrow a ha) (hr.type?_of_fold hrow b hb) hexact hv
  obtain rfl : m' = m := Option.some.inj (ham'.symm.trans ham)
  obtain rfl : n' = n := Option.some.inj (hbn'.symm.trans hbn)
  have hkept : op = .divide → x.isFraction = true ∨ y.isFraction = true := by
    intro hdivide
    have hinfer : (Expr.binary op l r).inferType q.columnType = some .float :=
      h.inferType fun _ _ => columnType_own
    rw [hxw, hyw]
    exact (keeps_operands hconst hkeeps).2.2 hdivide hinfer
  obtain ⟨z, hz, hzk, hfraction⟩ := measured_of_ratio hxm hyn hk hkept
  exact ⟨z, hz, ⟨k, hzk, hvk⟩, hfraction⟩

end Numbers

section Comparisons

/-- A comparison of exact operands compares their numbers. -/
lemma fold_comparison_exact (hrow : q.table.Holds row) (hop : op.isComparison = true)
    (hboth : tl = .bool ↔ tr = .bool) (hl : l.HasKind q.table q.source tl)
    (hr : r.HasKind q.table q.source tr) (hexact : ((Expr.binary op l r).onRow row).Exact)
    (hv : ((Expr.binary op l r).onRow row).fold = .ok v) :
    (l.onRow row).Exact ∧ (r.onRow row).Exact ∧
      ∃ a b, (l.onRow row).fold = .ok a ∧ (r.onRow row).fold = .ok b ∧
        ∀ m n, a.number? = some m → b.number? = some n →
          v = .bool (Fold.satisfies op (compare m n)) := by
  have hparts : (l.onRow row).Exact ∧ (r.onRow row).Exact ∧
      ∀ a b, (l.onRow row).fold = .ok a → (r.onRow row).fold = .ok b → Fold.Exact op a b := by
    cases op with
    | equal | notEqual | lessThan | lessThanOrEqual | greaterThan | greaterThanOrEqual =>
      exact hexact
    | _ => cases hop
  obtain ⟨hle, hre, hcompare⟩ := hparts
  obtain ⟨a, b, ha, hb, hv⟩ := fold_comparison hop hv
  refine ⟨hle, hre, a, b, ha, hb, fun m n hm hn => ?_⟩
  have hnumbers := comparison_of_numbers hop hboth (hl.type?_of_fold hrow a ha)
    (hr.type?_of_fold hrow b hb) hm hn (hcompare a b ha hb)
  rw [hv] at hnumbers
  exact Except.ok.inj hnumbers

/-- A turned comparison of turned operands has the same truth value. -/
lemma satisfies_commute (hop : op.isComparison = true) (m n : ℚ) :
    Fold.satisfies op.commute (compare n m) = Fold.satisfies op (compare m n) := by
  have hswap : compare n m = (compare m n).swap := Std.OrientedCmp.eq_swap
  rw [hswap]
  cases op with
  | equal | notEqual | lessThan | lessThanOrEqual | greaterThan | greaterThanOrEqual =>
    cases compare m n <;> rfl
  | _ => cases hop

/-- A comparison, in parentheses, either way round. -/
lemma comparison_shown (hrow : q.table.Holds row) (hop : op.isComparison = true)
    (hboth : tl = .bool ↔ tr = .bool) (hl : l.HasKind q.table q.source tl)
    (hr : r.HasKind q.table q.source tr) (hconst : ¬ (l.isConst && r.isConst) = true)
    (hx : ShownBy q row P l ps) (hy : ShownBy q row Q r qs) :
    ShownBy q row (IsWritten q (.binary op l r)) (.binary op l r)
        [.group (ps ++ .symbol op.symbol :: qs)] ∧
      ShownBy q row (IsWritten q (.binary op l r)) (.binary op l r)
        [.group (qs ++ .symbol op.commute.symbol :: ps)] := by
  obtain ⟨p, rfl, hx⟩ := hx
  obtain ⟨p', rfl, hy⟩ := hy
  have hcoalesce := BinaryOp.ne_coalesce_of_isComparison hop
  have hkind : (Expr.binary op l r).HasKind q.table q.source .bool := .comparison hop hboth hl hr
  -- A comparison looks at the numbers of its operands only, so either order will do.
  have hcompare : ((Expr.binary op l r).onRow row).Exact →
      (Expr.binary op l r).KeepsQuotients q.columnType →
      ∀ b, ((Expr.binary op l r).onRow row).fold = .ok (.bool b) →
        ∃ x y m n, p.quantity? (valuesOn q.table row) = some x ∧ x.number? = some m ∧
          p'.quantity? (valuesOn q.table row) = some y ∧ y.number? = some n ∧
          b = Fold.satisfies op (compare m n) := by
    intro hexact hkeeps c hv
    obtain ⟨hle, hre, a, b, ha, hb, hvalue⟩ :=
      fold_comparison_exact hrow hop hboth hl hr hexact hv
    obtain ⟨hkl, hkr, -⟩ := keeps_operands hconst hkeeps
    obtain ⟨x, hx, ⟨m, hxm, ham⟩, -⟩ := hx hle hkl a ha
    obtain ⟨y, hy, ⟨n, hyn, hbn⟩, -⟩ := hy hre (hkr hcoalesce) b hb
    exact ⟨x, y, m, n, hx, hxm, hy, hyn, Value.bool.inj (hvalue m n ham hbn)⟩
  constructor
  · refine ShownBy.of_truth hrow hkind fun hexact hkeeps b hv => ?_
    obtain ⟨x, y, m, n, hx, hxm, hy, hyn, rfl⟩ := hcompare hexact hkeeps b hv
    show Phrase.quantity? _ (.group [p, .symbol op.symbol, p']) = _
    rw [quantity?_sign, hx, hy]
    exact measured_of_comparison hop hxm hyn
  · refine ShownBy.of_truth hrow hkind fun hexact hkeeps b hv => ?_
    obtain ⟨x, y, m, n, hx, hxm, hy, hyn, rfl⟩ := hcompare hexact hkeeps b hv
    show Phrase.quantity? _ (.group [p', .symbol op.commute.symbol, p]) = _
    rw [quantity?_sign, hx, hy, ← satisfies_commute hop]
    exact measured_of_comparison (op.isComparison_commute.trans hop) hyn hxm

end Comparisons

end Sql

end TableQuery
