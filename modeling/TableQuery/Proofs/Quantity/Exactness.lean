import TableQuery.Proofs.Meaning.Folding
import TableQuery.Proofs.Quantity.Evaluation

/-!
# Exact results

The expressions over the row of one query that are made of numbers (`Expr.HasKind`), and what it
means that they fold to exact results (`Expr.Exact`).  Integers are always exact: their arithmetic
fails where the result does not fit, and truncates a quotient by design.  A float that is computed
or converted is exact if it is the number that it stands for.  The value of an expression with exact
results has a number (`Expr.HasKind.number?_of_fold`).
-/

namespace TableQuery

/-- Whether a class is that of integers or of floats. -/
def ColumnType.IsNumber (ty : ColumnType) : Prop := ty = .int ∨ ty = .float

/-- Whether an expression over the row of a table is made of numbers, and its value is of a class:
it is an integer, a float or a truth value. -/
inductive Expr.HasKind (t : Table) (source : SourceId) : Expr → ColumnType → Prop
  | value {v : Value} {ty : ColumnType} : ty.IsNumber → v.type? = some ty →
    HasKind t source (.value v) ty
  | column {ref : ColumnRef} {c : Column} : c.ty.IsNumber → ref.source = source →
    t.column? ref.column = some c → HasKind t source (.column ref) c.ty
  | negate {e : Expr} {ty : ColumnType} : ty.IsNumber → HasKind t source e ty →
    HasKind t source (.unary .negate e) ty
  | whole {op : BinaryOp} {l r : Expr} : op.isElementary = true → HasKind t source l .int →
    HasKind t source r .int → HasKind t source (.binary op l r) .int
  | mixed {op : BinaryOp} {l r : Expr} {tl tr : ColumnType} : op.isElementary = true →
    tl.IsNumber → tr.IsNumber → (tl = .float ∨ tr = .float) → HasKind t source l tl →
    HasKind t source r tr → HasKind t source (.binary op l r) .float
  | coalesce {l r : Expr} {tl tr : ColumnType} : HasKind t source l tl → HasKind t source r tr →
    HasKind t source (.binary .coalesce l r) tl
  | comparison {op : BinaryOp} {l r : Expr} {tl tr : ColumnType} : op.isComparison = true →
    (tl = .bool ↔ tr = .bool) → HasKind t source l tl → HasKind t source r tr →
    HasKind t source (.binary op l r) .bool
  | widen {e : Expr} : HasKind t source e .int → HasKind t source (.cast e .float true) .float

namespace Fold

/-- Whether the floats that two values are compared as are the numbers that the values are. -/
def ComparesNumbers (a b : Value) : Prop :=
  ∃ x y, a.float? = some x ∧ b.float? = some y ∧ Number.rational? x = a.number? ∧
    Number.rational? y = b.number?

/-- Whether the result of arithmetic on two values is the result of it on the numbers that they
are. -/
def ComputesNumber (op : BinaryOp) (a b : Value) : Prop :=
  ∀ v, binary op a b = .ok v → ∃ x y z, a.number? = some x ∧ b.number? = some y ∧
    Sql.ratio op.symbol x y = some z ∧ v.number? = some z

/-- Whether the result of an operator on two values is exact.  Without a float it always is. -/
def Exact (op : BinaryOp) (a b : Value) : Prop :=
  a.type? ≠ some .float ∧ b.type? ≠ some .float ∨
    if op.isComparison then ComparesNumbers a b else ComputesNumber op a b

end Fold

/-- Whether the results of an expression and of its operands are exact, as far as they are
evaluated.  Nothing is null, so the alternative for null is not evaluated. -/
def Expr.Exact : Expr → Prop
  | .value v => ∃ x, v.number? = some x
  | .unary .negate e => e.Exact ∧ ∀ a v, e.fold = .ok a → Fold.unary .negate a = .ok v →
      ∃ x, a.number? = some x ∧ v.number? = some (-x)
  | .cast e ty _ => e.Exact ∧ ∀ a v, e.fold = .ok a → a.cast ty = .ok v → v.number? = a.number?
  | .binary .coalesce l _ => l.Exact
  | .binary op l r => l.Exact ∧ r.Exact ∧
      ∀ a b, l.fold = .ok a → r.fold = .ok b → Fold.Exact op a b
  | _ => True

section Values

variable {v : Value} {ty : ColumnType} {x : ℚ}

/-- A value of the class of floats is one. -/
lemma Value.float_of_type? (h : v.type? = some .float) : ∃ x, v = .float x := by
  cases v with
  | float x => exact ⟨x, rfl⟩
  | _ => cases h

/-- A value with a number has a quantity, which is a fraction if the value is a float. -/
lemma Value.quantity?_of_number? (hty : v.type? = some ty) (hx : v.number? = some x) :
    ∃ q, v.quantity? = some q ∧ q.number? = some x ∧ q.isFraction = (ty == .float) := by
  obtain ⟨q, hq, hnumber⟩ := Option.bind_eq_some_iff.mp hx
  refine ⟨q, hq, hnumber, ?_⟩
  cases v with
  | bool b | int n =>
    cases hty
    cases hq
    rfl
  | float y =>
    cases hty
    obtain ⟨z, -, rfl⟩ := Option.map_eq_some_iff.mp hq
    rfl
  | _ => cases hq <;> cases hty

end Values

section Folding

variable {op : BinaryOp} {l r e : Expr} {a b v : Value} {tl tr : ColumnType}

/-- An elementary operator has a value only if both operands have one. -/
lemma fold_elementary (hop : op.isElementary = true) (h : (Expr.binary op l r).fold = .ok v) :
    ∃ a b, l.fold = .ok a ∧ r.fold = .ok b ∧ Fold.binary op a b = .ok v := by
  have hboth : ∀ a, Fold.decided? op a = none := by
    cases op with
    | add | subtract | multiply | divide => exact fun _ => rfl
    | _ => cases hop
  exact fold_both hboth h

/-- One of the four operations between numbers is arithmetic. -/
lemma binary_of_elementary (hop : op.isElementary = true) (htl : tl.IsNumber) (htr : tr.IsNumber)
    (ha : a.type? = some tl) (hb : b.type? = some tr) :
    Fold.binary op a b = Fold.arithmetic op a b := by
  have hl : Fold.isText a = false := by
    rw [Fold.isText, ha]
    obtain rfl | rfl := htl <;> rfl
  have hr : Fold.isText b = false := by
    rw [Fold.isText, hb]
    obtain rfl | rfl := htr <;> rfl
  cases op with
  | add =>
    have htext : ¬ (BinaryOp.add = .add ∧ (Fold.isText a = true ∨ Fold.isText b = true)) := by
      rw [hl, hr]
      rintro ⟨-, h | h⟩ <;> cases h
    exact if_neg htext
  | subtract | multiply | divide => rfl
  | _ => cases hop

/-- Arithmetic with a float yields a float. -/
lemma float_of_binary (hop : op.isElementary = true) (htl : tl.IsNumber) (htr : tr.IsNumber)
    (hfloat : tl = .float ∨ tr = .float) (ha : a.type? = some tl) (hb : b.type? = some tr)
    (h : Fold.binary op a b = .ok v) : ∃ x, v = .float x := by
  rw [binary_of_elementary hop htl htr ha hb] at h
  obtain rfl | rfl := htl
  · obtain ⟨m, rfl⟩ := Value.int_of_type? ha
    obtain hfloat | rfl := hfloat
    · cases hfloat
    · obtain ⟨y, rfl⟩ := Value.float_of_type? hb
      cases h
      exact ⟨_, rfl⟩
  · obtain ⟨x, rfl⟩ := Value.float_of_type? ha
    obtain rfl | rfl := htr
    · obtain ⟨n, rfl⟩ := Value.int_of_type? hb
      cases h
      exact ⟨_, rfl⟩
    · obtain ⟨y, rfl⟩ := Value.float_of_type? hb
      cases h
      exact ⟨_, rfl⟩

/-- An elementary operator is exact only if both operands are and its result is. -/
lemma exact_of_elementary (hop : op.isElementary = true) (h : (Expr.binary op l r).Exact) :
    l.Exact ∧ r.Exact ∧ ∀ a b, l.fold = .ok a → r.fold = .ok b → Fold.Exact op a b := by
  cases op with
  | add | subtract | multiply | divide => exact h
  | _ => cases hop

/-- An exact result with a float is the result of rational numbers. -/
lemma number?_of_exact (hop : op.isElementary = true) (hfloat : tl = .float ∨ tr = .float)
    (ha : a.type? = some tl) (hb : b.type? = some tr) (hexact : Fold.Exact op a b)
    (h : Fold.binary op a b = .ok v) :
    ∃ x y z, a.number? = some x ∧ b.number? = some y ∧ Sql.ratio op.symbol x y = some z ∧
      v.number? = some z := by
  obtain ⟨hl, hr⟩ | hexact := hexact
  · obtain rfl | rfl := hfloat
    · exact absurd ha hl
    · exact absurd hb hr
  · obtain ⟨-, -, -, hcomparison⟩ := BinaryOp.not_of_isElementary hop
    rw [if_neg hcomparison] at hexact
    exact hexact v h

/-- Values of which one is a float are compared as the numbers that they are, if that is exact. -/
lemma compareFloats_of_exact {m n : ℚ} (hop : op.isComparison = true)
    (hfloat : a.type? = some .float ∨ b.type? = some .float) (hm : a.number? = some m)
    (hn : b.number? = some n) (hexact : Fold.Exact op a b) :
    ∃ x y, a.float? = some x ∧ b.float? = some y ∧
      Value.compareFloats x y = some (compare m n) := by
  obtain ⟨hl, hr⟩ | hexact := hexact
  · obtain h | h := hfloat
    · exact absurd h hl
    · exact absurd h hr
  · rw [if_pos hop] at hexact
    obtain ⟨x, y, hx, hy, hxm, hyn⟩ := hexact
    exact ⟨x, y, hx, hy, Value.compareFloats_of_rational? (hxm.trans hm) (hyn.trans hn)⟩

/-- Values are compared as the numbers that they are, if that is exact. -/
theorem comparison_of_numbers {m n : ℚ} (hop : op.isComparison = true)
    (hboth : tl = .bool ↔ tr = .bool) (ha : a.type? = some tl) (hb : b.type? = some tr)
    (hm : a.number? = some m) (hn : b.number? = some n) (hexact : Fold.Exact op a b) :
    Fold.comparison op a b = .ok (.bool (Fold.satisfies op (compare m n))) := by
  suffices hcompare : a.compare? b = some (compare m n) by
    rw [Fold.comparison, hcompare]
  -- As soon as one side is a float, both are compared as floats.
  have hfloats := fun hfloat => compareFloats_of_exact hop hfloat hm hn hexact
  cases a with
  | int a =>
    cases b with
    | int b =>
      cases hm
      cases hn
      exact congrArg some (Sql.compare_intCast a.toInt b.toInt).symm
    | float y =>
      obtain ⟨x, _, hx, ⟨⟩, hcompare⟩ := hfloats (.inr rfl)
      cases hx
      exact hcompare
    -- A truth value has a number, too, but is compared with truth values only.
    | bool b =>
      cases ha
      cases hb
      cases hboth.mpr rfl
    | _ => cases hn
  | float x =>
    cases b with
    | int b =>
      obtain ⟨_, y, ⟨⟩, hy, hcompare⟩ := hfloats (.inl rfl)
      cases hy
      exact hcompare
    | float y =>
      obtain ⟨_, _, ⟨⟩, ⟨⟩, hcompare⟩ := hfloats (.inl rfl)
      exact hcompare
    | bool b =>
      cases ha
      cases hb
      cases hboth.mpr rfl
    | _ => cases hn
  | bool a =>
    cases b with
    | bool b =>
      cases hm
      cases hn
      rw [Sql.compare_intCast]
      cases a <;> cases b <;> rfl
    | int b | float b =>
      cases ha
      cases hb
      cases hboth.mp rfl
    | _ => cases hn
  | _ => cases hm

end Folding

namespace Expr.HasKind

variable {t : Table} {source : SourceId} {row : List Value} {e : Expr} {ty : ColumnType}

/-- The class of an expression is inferred. -/
theorem inferType {columnType : ColumnRef → Option ColumnType}
    (hcolumns : ∀ ref c, ref.source = source → t.column? ref.column = some c →
      columnType ref = some c.ty) (h : e.HasKind t source ty) :
    e.inferType columnType = some ty := by
  induction h with
  | value _ hv => exact hv
  | column _ hsource hc => exact hcolumns _ _ hsource hc
  | negate _ _ ih => exact ih
  | @whole op l r hop _ _ ihl ihr =>
    rw [Expr.inferType, ihl, ihr]
    cases op with
    | add | subtract | multiply | divide => rfl
    | _ => cases hop
  | @mixed op l r tl tr hop htl htr hfloat _ _ ihl ihr =>
    rw [Expr.inferType, ihl, ihr]
    cases op with
    | add | subtract | multiply | divide =>
      obtain rfl | rfl := htl
      · obtain h | rfl := hfloat
        · cases h
        · rfl
      · obtain rfl | rfl := htr <;> rfl
    | _ => cases hop
  | coalesce _ _ ihl ihr =>
    rw [Expr.inferType, ihl, ihr]
    rfl
  | @comparison op l r tl tr hop _ _ _ _ _ =>
    have hpredicate : op.isPredicate = true := by rw [BinaryOp.isPredicate, hop, Bool.or_true]
    rw [Expr.inferType, if_pos hpredicate]
  | widen _ _ => rfl

/-- The value of an expression on a row is of the class of the expression. -/
theorem type?_of_fold (hrow : t.Holds row) (h : e.HasKind t source ty) :
    FoldsTo (e.onRow row) ty := by
  induction h with
  | value _ hv =>
    intro v h
    cases h
    exact hv
  | @column ref c _ _ hc =>
    intro v h
    obtain ⟨w, hw, hty⟩ := hrow ref.column c hc
    rw [Expr.onRow, hw] at h
    cases h
    exact hty
  | negate hty _ ih =>
    intro v h
    obtain ⟨a, ha, h⟩ := fold_unary h
    obtain rfl | rfl := hty
    · obtain ⟨n, rfl⟩ := Value.int_of_type? (ih a ha)
      have hsign : UnaryOp.negate ≠ .not := nofun
      exact (Sql.signed_of_unary hsign h).2
    · obtain ⟨x, rfl⟩ := Value.float_of_type? (ih a ha)
      cases h
      rfl
  | whole hop _ _ ihl ihr =>
    intro v h
    obtain ⟨a, b, ha, hb, h⟩ := fold_elementary hop h
    obtain ⟨m, rfl⟩ := Value.int_of_type? (ihl a ha)
    obtain ⟨n, rfl⟩ := Value.int_of_type? (ihr b hb)
    obtain ⟨c, rfl, -⟩ := Sql.wholly_of_binary hop h
    rfl
  | mixed hop htl htr hfloat _ _ ihl ihr =>
    intro v h
    obtain ⟨a, b, ha, hb, h⟩ := fold_elementary hop h
    obtain ⟨x, rfl⟩ := float_of_binary hop htl htr hfloat (ihl a ha) (ihr b hb) h
    rfl
  | coalesce _ _ ihl _ => exact fun v h => ihl v (fold_coalesce ihl h)
  | comparison hop _ _ _ _ _ =>
    intro v h
    obtain ⟨a, b, -, -, h⟩ := fold_comparison hop h
    obtain ⟨c, rfl⟩ := bool_of_comparison h
    rfl
  | widen _ ih =>
    intro v h
    obtain ⟨a, ha, h⟩ := fold_cast h
    obtain ⟨n, rfl⟩ := Value.int_of_type? (ih a ha)
    cases h
    rfl

/-- The value of an expression with exact results has a number. -/
theorem number?_of_fold (hrow : t.Holds row) (h : e.HasKind t source ty)
    (hexact : (e.onRow row).Exact) {v : Value} (hv : (e.onRow row).fold = .ok v) :
    ∃ x, v.number? = some x := by
  -- Integers have numbers however they are computed.
  have hint : ∀ {n : Int64}, ∃ x, (Value.int n).number? = some x := ⟨_, rfl⟩
  induction h generalizing v with
  | value _ _ =>
    cases hv
    exact hexact
  | column _ _ _ =>
    cases hv
    exact hexact
  | negate _ _ _ =>
    obtain ⟨a, ha, hv⟩ := fold_unary hv
    obtain ⟨x, -, hx⟩ := hexact.2 a v ha hv
    exact ⟨_, hx⟩
  | whole hop hl hr _ _ =>
    obtain ⟨n, rfl⟩ := Value.int_of_type? ((HasKind.whole hop hl hr).type?_of_fold hrow v hv)
    exact hint
  | mixed hop _ _ hfloat hl hr _ _ =>
    obtain ⟨a, b, ha, hb, hv⟩ := fold_elementary hop hv
    obtain ⟨-, -, hexact⟩ := exact_of_elementary hop hexact
    obtain ⟨-, -, z, -, -, -, hz⟩ := number?_of_exact hop hfloat (hl.type?_of_fold hrow a ha)
      (hr.type?_of_fold hrow b hb) (hexact a b ha hb) hv
    exact ⟨z, hz⟩
  | @coalesce l r tl tr hl _ ih _ => exact ih hexact (fold_coalesce (hl.type?_of_fold hrow) hv)
  | comparison hop _ _ _ _ _ =>
    obtain ⟨a, b, -, -, h⟩ := fold_comparison hop hv
    obtain ⟨c, rfl⟩ := bool_of_comparison h
    exact ⟨_, rfl⟩
  | widen he ih =>
    obtain ⟨a, ha, hv⟩ := fold_cast hv
    obtain ⟨x, hx⟩ := ih hexact.1 ha
    exact ⟨x, (hexact.2 a v ha hv).trans hx⟩

end Expr.HasKind

end TableQuery
