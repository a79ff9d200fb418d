import TableQuery.Proofs.Quantity.Calls
import TableQuery.Proofs.Quantity.Operators

/-!
# Calls that are written out

SQLite has no functions that round to an integer below or above, and SQL Server none for the larger
or the smaller of two numbers.  Such calls are written as a choice in which the operands occur
several times, each time with parameters of its own (`roundingTree`, `selectionTree`).  Their texts
have the numbers that functions of the server would have (`emulated_calls_compute`).

All copies of an operand have the same tree, since a tree holds the values of its parameters and not
their numbers.  So it is enough that an operand is a single phrase (`Expr.IsOperand.written`), which
has the number of its text wherever it stands.
-/

namespace TableQuery

/-- The function that rounds to the nearest integer above or below. -/
def Func.rounding : Bool → Func
  | true => .ceiling
  | false => .floor

/-- The function that selects the larger or the smaller of two numbers. -/
def Func.selection : Bool → Func
  | true => .max
  | false => .min

/-- An operand of calls that round and select: a column of the row of a query, a literal value, or a
call of that kind. -/
inductive Expr.IsOperand (q : Query) : Expr → Prop
  | column {i : Nat} {c : Column} : q.table.column? i = some c →
    IsOperand q (.column ⟨q.source, i⟩)
  | value (v : Value) : IsOperand q (.value v)
  | rounding (up : Bool) {e : Expr} : IsOperand q e → IsOperand q (.call (.rounding up) [e])
  | selection (larger : Bool) {l r : Expr} : IsOperand q l → IsOperand q r →
    IsOperand q (.call (.selection larger) [l, r])

namespace Sql

/-- What a call that rounds is written as. -/
def roundingTree (d : Dialect) (up : Bool) (a : Scalar) : Scalar :=
  match d with
  | .sqlite =>
    chosen (.compare (if up then .greaterThan else .lessThan) a (.cast a .integer))
      (.operator (if up then .add else .subtract) (.cast a .integer) (.number 1))
      (.cast a .integer)
  | _ => .call (if up then .ceiling else .floor) [a]

/-- What a call that selects is written as. -/
def selectionTree (d : Dialect) (larger : Bool) (a b : Scalar) : Scalar :=
  match d with
  | .sqlServer =>
    chosen (.compare (if larger then .greaterThanOrEqual else .lessThanOrEqual) a b) a b
  | _ => .call (if larger then .greatest else .least) [a, b]

/-- The parameters of a call that rounds: those of its operand, as often as that is written. -/
def roundingParameters (d : Dialect) (vs : List Value) : List Value :=
  match d with
  | .sqlite => vs ++ vs ++ vs ++ vs
  | _ => vs

/-- The parameters of a call that selects: those of its operands, as often as these are written. -/
def selectionParameters (d : Dialect) (vs ws : List Value) : List Value :=
  match d with
  | .sqlServer => vs ++ ws ++ vs ++ ws
  | _ => vs ++ ws

section Trees

variable {d : Dialect} {ctx : Context} {e l r : Expr} {a b : Scalar} {vs ws : List Value}

/-- A step after one that succeeds binds further values. -/
lemma Emit.ok_bind {α β : Type} (vs : List Value) (a : α) (f : α → Emit β) :
    ((⟨vs, .ok a⟩ : Emit α) >>= f) = ⟨vs ++ (f a).bound, (f a).result⟩ := rfl

/-- A step that only returns binds nothing. -/
lemma Emit.pure_eq {α : Type} (a : α) : (Pure.pure a : Emit α) = ⟨[], .ok a⟩ := rfl

/-- The tree that a call that rounds becomes. -/
lemma formsOf_rounding (up : Bool) (h : (formsOf e ctx).scalar = ⟨vs, .ok a⟩) :
    (formsOf (.call (.rounding up) [e]) ctx).scalar =
      ⟨roundingParameters ctx.dialect vs, .ok (roundingTree ctx.dialect up a)⟩ := by
  have hcall : (formsOf (.call (.rounding up) [e]) ctx).scalar =
      Call.roundToward ctx.dialect up (formsOf e ctx).scalar := by
    cases up <;> rfl
  rw [hcall, h]
  cases ctx.dialect <;>
    simp [Call.roundToward, Emit.ok_bind, Emit.pure_eq, roundingParameters, roundingTree]

/-- The tree that a call that selects becomes. -/
lemma formsOf_selection (larger : Bool) (hl : (formsOf l ctx).scalar = ⟨vs, .ok a⟩)
    (hr : (formsOf r ctx).scalar = ⟨ws, .ok b⟩) :
    (formsOf (.call (.selection larger) [l, r]) ctx).scalar =
      ⟨selectionParameters ctx.dialect vs ws, .ok (selectionTree ctx.dialect larger a b)⟩ := by
  have hcall : (formsOf (.call (.selection larger) [l, r]) ctx).scalar =
      Call.extremum ctx.dialect larger (formsOf l ctx).scalar (formsOf r ctx).scalar := by
    cases larger <;> rfl
  rw [hcall, hl, hr]
  cases ctx.dialect <;>
    simp [Call.extremum, Emit.ok_bind, Emit.pure_eq, selectionParameters, selectionTree,
      Dialect.isSqlServer]

end Trees

section Numbers

variable {d : Dialect} {columns : String → Option Quantity} {convert : ℚ → Option ℤ}
  {a b : Scalar} {m n : ℚ}

/-- Whether a value is written as a single phrase. -/
def Scalar.IsSingle (d : Dialect) (a : Scalar) : Prop := ∃ p, a.phrases d = [p]

/-- Whether a value is written as a single phrase with a number on the row. -/
def Scalar.HasNumber (d : Dialect) (columns : String → Option Quantity)
    (convert : ℚ → Option ℤ) (a : Scalar) (m : ℚ) : Prop :=
  ∃ p x, a.phrases d = [p] ∧ p.amount? columns convert = some x ∧ x.number? = some m

/-- A rounded number is a single phrase. -/
lemma roundingTree_single (up : Bool) (ha : a.IsSingle d) : (roundingTree d up a).IsSingle d := by
  cases d with
  | sqlite => exact ⟨_, rfl⟩
  | _ => exact ⟨_, rfl⟩

/-- A selected number is a single phrase. -/
lemma selectionTree_single (larger : Bool) : (selectionTree d larger a b).IsSingle d := by
  cases d with
  | sqlServer => exact ⟨_, rfl⟩
  | _ => exact ⟨_, rfl⟩

/-- What a call that rounds is written as has the rounded number. -/
lemma roundingTree_number (up : Bool) (hconvert : Truncates convert)
    (ha : a.HasNumber d columns convert m) (hm : |m| < 2 ^ 63) :
    (roundingTree d up a).HasNumber d columns convert (nearest up m) := by
  obtain ⟨p, x, hap, hp, hx⟩ := ha
  have hcall : ∀ r : Routine, roundsUp? (r.name d) = some up →
      (Scalar.call r [a]).HasNumber d columns convert (nearest up m) := by
    intro r hr
    obtain ⟨z, hz, hnumber⟩ := roundedBy_of_number hr hx
    refine ⟨.call (r.name d) [p], z, ?_, (amount?_call₁ hp).trans hz, hnumber⟩
    rw [Scalar.phrases, scalarListPhrases, hap]
  cases d with
  | sqlite =>
    refine ⟨_, _, ?_, amount?_rounding up hconvert hp hx hm rfl rfl, rfl⟩
    have htype : TypeName.integer.phrases = [.word "INTEGER"] := rfl
    have hone : Nat.repr 1 = "1" := rfl
    simp [roundingTree, chosen, Scalar.phrases, Cond.phrases, hap, htype, hone]
  | sqlServer => exact hcall _ (by cases up <;> rfl)
  | postgreSql => exact hcall _ (by cases up <;> rfl)

/-- What a call that selects is written as has the selected number. -/
lemma selectionTree_number (larger : Bool) (ha : a.HasNumber d columns convert m)
    (hb : b.HasNumber d columns convert n) :
    (selectionTree d larger a b).HasNumber d columns convert (extreme larger m n) := by
  obtain ⟨p, x, hap, hp, hx⟩ := ha
  obtain ⟨q, y, hbq, hq, hy⟩ := hb
  have hcall : ∀ r : Routine, selectsLarger? (r.name d) = some larger →
      (Scalar.call r [a, b]).HasNumber d columns convert (extreme larger m n) := by
    intro r hr
    obtain ⟨z, hz, hnumber⟩ := selectedBy_of_number hr hx hy
    refine ⟨.call (r.name d) [p, .mark ',', q], z, ?_, (amount?_call₂ hp hq).trans hz, hnumber⟩
    simp [Scalar.phrases, scalarListPhrases, hap, hbq]
  cases d with
  | sqlServer =>
    obtain ⟨z, hz, hnumber⟩ := amount?_selection larger hp hq hx hy
    refine ⟨_, z, ?_, hz, hnumber⟩
    simp [selectionTree, chosen, Scalar.phrases, Cond.phrases, hap, hbq]
  | sqlite => exact hcall _ (by cases larger <;> rfl)
  | postgreSql => exact hcall _ (by cases larger <;> rfl)

end Numbers

/-- The quantity of the text of a statement on a row, with the parameters of the statement. -/
def Statement.amount? (d : Dialect) (columns : String → Option Quantity)
    (convert : ℚ → Option ℤ) (st : Statement) : Option Quantity :=
  match st.phrases? d with
  | some [p] => p.amount? columns convert
  | _ => none

end Sql

open Sql

/-- Whether an expression over the row of a query is compiled to a text with a number on the row,
and to some parameters. -/
def Expr.Computes (d : Dialect) (q : Query) (columns : String → Option Quantity)
    (convert : ℚ → Option ℤ) (e : Expr) (m : ℚ) (vs : List Value) : Prop :=
  ∃ st x, e.compile d q = .ok st ∧ st.parameters = vs ∧ st.amount? d columns convert = some x ∧
    x.number? = some m

/-- The number that an operand stands for on a row, on which all its columns have numbers.  Only
numbers with 64 bits are rounded. -/
inductive Expr.Denotes (q : Query) (columns : String → Option Quantity) : Expr → ℚ → Prop
  | column {i : Nat} {c : Column} {x : Quantity} {m : ℚ} : q.table.column? i = some c →
    columns c.name = some x → x.number? = some m → Denotes q columns (.column ⟨q.source, i⟩) m
  | value {v : Value} {m : ℚ} : v.number? = some m → Denotes q columns (.value v) m
  | rounding (up : Bool) {e : Expr} {m : ℚ} : Denotes q columns e m → |m| < 2 ^ 63 →
    Denotes q columns (.call (.rounding up) [e]) (nearest up m)
  | selection (larger : Bool) {l r : Expr} {m n : ℚ} : Denotes q columns l m →
    Denotes q columns r n →
    Denotes q columns (.call (.selection larger) [l, r]) (extreme larger m n)

section Operands

variable {d : Dialect} {q : Query} {columns : String → Option Quantity} {convert : ℚ → Option ℤ}
  {e l r : Expr} {a : Scalar} {m n : ℚ} {vs ws : List Value}

/-- An expression that is no condition is written as its value. -/
lemma ofExpr_of_scalar (htest : e.isPredicate = false)
    (h : (formsOf e (Context.top d q)).scalar = ⟨vs, .ok a⟩) :
    ofExpr d q e = ⟨vs, .ok (.scalar a)⟩ := by
  rw [ofExpr, htest, if_neg Bool.false_ne_true, h, Emit.ok_bind, Emit.pure_eq, List.append_nil]

/-- The text of an expression has the number that the value has which is written for it. -/
lemma Expr.computes_iff (htest : e.isPredicate = false)
    (h : (formsOf e (Context.top d q)).scalar = ⟨vs, .ok a⟩) (ha : a.IsSingle d) :
    e.Computes d q columns convert m ws ↔ ws = vs ∧ a.HasNumber d columns convert m := by
  obtain ⟨p, hp⟩ := ha
  have hfragment := ofExpr_of_scalar htest h
  obtain ⟨st, hst, hread⟩ := Expr.exists_compile (congrArg Emit.result hfragment)
  have hparameters : st.parameters = vs := by
    obtain ⟨-, -, -, hbound⟩ := Statement.of_eq_ok hst
    rw [hbound, hfragment]
  have hamount : st.amount? d columns convert = p.amount? columns convert := by
    rw [Statement.amount?, hread, Fragment.phrases, hp]
  constructor
  case mp =>
    rintro ⟨st', x, hst', rfl, hx, hm⟩
    cases hst.symm.trans hst'
    exact ⟨hparameters, p, x, hp, hamount.symm.trans hx, hm⟩
  case mpr =>
    rintro ⟨rfl, p', x, hp', hx, hm⟩
    cases hp.symm.trans hp'
    exact ⟨st, x, hst, hparameters, hamount.trans hx, hm⟩

/-- A column of the query itself is written without a qualifier. -/
lemma formsOf_column {i : Nat} {c : Column} (hc : q.table.column? i = some c) :
    (formsOf (.column ⟨q.source, i⟩) (Context.top d q)).scalar =
      ⟨[], .ok (.column ⟨none, c.name, q.source⟩)⟩ := by
  have hname : (Context.top d q).columnName ⟨q.source, i⟩ = .ok ⟨none, c.name, q.source⟩ :=
    columnName_own rfl hc
  rw [formsOf, Forms.ofScalar, hname]
  rfl

/-- A value is written as its literal. -/
lemma formsOf_value {v : Value} {ctx : Context} : (formsOf (.value v) ctx).scalar = literal v := by
  rw [formsOf, Forms.ofConstant]
  rfl

/-- An operand is written as a single phrase. -/
theorem Expr.IsOperand.written (h : e.IsOperand q) :
    e.isPredicate = false ∧
      ∃ vs a, (formsOf e (Context.top d q)).scalar = ⟨vs, .ok a⟩ ∧ a.IsSingle d := by
  induction h with
  | column hc => exact ⟨rfl, _, _, formsOf_column hc, _, rfl⟩
  | value v =>
    refine ⟨rfl, ?_⟩
    rw [formsOf_value, literal]
    split
    · exact ⟨_, _, rfl, _, rfl⟩
    · exact ⟨_, _, rfl, _, rfl⟩
  | rounding up _ ih =>
    obtain ⟨-, vs, a, ha, hsingle⟩ := ih
    exact ⟨by cases up <;> rfl, _, _, formsOf_rounding up ha, roundingTree_single up hsingle⟩
  | selection larger _ _ ihl ihr =>
    obtain ⟨-, vs, a, ha, -⟩ := ihl
    obtain ⟨-, ws, b, hb, -⟩ := ihr
    exact ⟨by cases larger <;> rfl, _, _, formsOf_selection larger ha hb,
      selectionTree_single larger⟩

/-- A call that rounds computes the rounded number of its operand. -/
theorem Expr.Computes.rounding (up : Bool) (hconvert : Truncates convert) (he : e.IsOperand q)
    (h : e.Computes d q columns convert m vs) (hm : |m| < 2 ^ 63) :
    (Expr.call (.rounding up) [e]).Computes d q columns convert (nearest up m)
      (roundingParameters d vs) := by
  obtain ⟨htest, us, a, ha, hsingle⟩ := he.written (d := d)
  obtain ⟨rfl, hnumber⟩ := (computes_iff htest ha hsingle).mp h
  refine (computes_iff (by cases up <;> rfl) (formsOf_rounding up ha)
    (roundingTree_single up hsingle)).mpr ⟨rfl, ?_⟩
  exact roundingTree_number up hconvert hnumber hm

/-- A call that selects computes the selected number of its operands. -/
theorem Expr.Computes.selection (larger : Bool) (hl : l.IsOperand q) (hr : r.IsOperand q)
    (hm : l.Computes d q columns convert m vs) (hn : r.Computes d q columns convert n ws) :
    (Expr.call (.selection larger) [l, r]).Computes d q columns convert (extreme larger m n)
      (selectionParameters d vs ws) := by
  obtain ⟨htest, us, a, ha, hsingle⟩ := hl.written (d := d)
  obtain ⟨htest', us', b, hb, hsingle'⟩ := hr.written (d := d)
  obtain ⟨rfl, hnumber⟩ := (computes_iff htest ha hsingle).mp hm
  obtain ⟨rfl, hnumber'⟩ := (computes_iff htest' hb hsingle').mp hn
  refine (computes_iff (by cases larger <;> rfl) (formsOf_selection larger ha hb)
    (selectionTree_single larger)).mpr ⟨rfl, ?_⟩
  exact selectionTree_number larger hnumber hnumber'

/-- What denotes a number is an operand. -/
lemma Expr.Denotes.isOperand (h : e.Denotes q columns m) : e.IsOperand q := by
  induction h with
  | column hc _ _ => exact .column hc
  | value _ => exact .value _
  | rounding up _ _ ih => exact .rounding up ih
  | selection larger _ _ ihl ihr => exact .selection larger ihl ihr

/-- An operand computes the number that it stands for, however its calls are written. -/
theorem Expr.Denotes.computes (hconvert : Truncates convert) (h : e.Denotes q columns m) :
    ∃ vs, e.Computes d q columns convert m vs := by
  induction h with
  | column hc hx hm =>
    exact ⟨_, (computes_iff rfl (formsOf_column hc) ⟨_, rfl⟩).mpr ⟨rfl, _, _, rfl, hx, hm⟩⟩
  | @value v m hm =>
    have hpresent : v.isNull = false := by
      cases v with
      | null => cases hm
      | _ => rfl
    obtain ⟨x, hx, hxm⟩ := Option.bind_eq_some_iff.mp hm
    exact ⟨_, (computes_iff rfl (formsOf_value.trans (literal_eq hpresent)) ⟨_, rfl⟩).mpr
      ⟨rfl, _, _, rfl, hx, hxm⟩⟩
  | rounding up he hm ih =>
    obtain ⟨vs, hvs⟩ := ih
    exact ⟨_, hvs.rounding up hconvert he.isOperand hm⟩
  | selection larger hl hr ihl ihr =>
    obtain ⟨vs, hvs⟩ := ihl
    obtain ⟨ws, hws⟩ := ihr
    exact ⟨_, hvs.selection larger hl.isOperand hr.isOperand hws⟩

/-- Let conversions to integers remove the fraction of numbers with 64 bits.  Then whatever the
calls in an operand are and however they are written, the text of a call that rounds it has the
nearest integer below or above in SQLite, and the text of a call that selects one of two operands
has the larger or the smaller of their numbers in SQL Server.  Each copy of an operand has
parameters of its own.  Hence an operand has the number that it stands for in every dialect. -/
theorem emulated_calls_compute (q : Query) (columns : String → Option Quantity)
    (convert : ℚ → Option ℤ) (hconvert : Truncates convert) :
    (∀ d e, Expr.IsOperand q e → ∃ st, e.compile d q = .ok st) ∧
    (∀ e x vs, Expr.IsOperand q e → e.Computes .sqlite q columns convert x vs → |x| < 2 ^ 63 →
      (Expr.call .floor [e]).Computes .sqlite q columns convert ⌊x⌋ (vs ++ vs ++ vs ++ vs) ∧
      (Expr.call .ceiling [e]).Computes .sqlite q columns convert ⌈x⌉ (vs ++ vs ++ vs ++ vs)) ∧
    (∀ l r x y vs ws, Expr.IsOperand q l → Expr.IsOperand q r →
      l.Computes .sqlServer q columns convert x vs → r.Computes .sqlServer q columns convert y ws →
      (Expr.call .max [l, r]).Computes .sqlServer q columns convert (max x y)
        (vs ++ ws ++ vs ++ ws) ∧
      (Expr.call .min [l, r]).Computes .sqlServer q columns convert (min x y)
        (vs ++ ws ++ vs ++ ws)) ∧
    ∀ d e x, Expr.Denotes q columns e x → ∃ vs, e.Computes d q columns convert x vs := by
  refine ⟨?compiled, ?rounded, ?selected, fun d e x h => h.computes hconvert⟩
  case compiled =>
    intro d e he
    -- An operand is no test, so its text is that of a value.
    obtain ⟨htest, vs, a, ha, hsingle⟩ := he.written (d := d)
    have hfragment := congrArg Emit.result (ofExpr_of_scalar htest ha)
    obtain ⟨st, hst, -⟩ := Expr.exists_compile hfragment
    exact ⟨st, hst⟩
  case rounded =>
    intro e x vs he hx hsmall
    exact ⟨hx.rounding false hconvert he hsmall, hx.rounding true hconvert he hsmall⟩
  case selected =>
    intro l r x y vs ws hl hr hx hy
    exact ⟨hx.selection true hl hr hy, hx.selection false hl hr hy⟩

end Operands

section Gauges

/-- A table of gauges. -/
def gaugeTable : Table :=
  .of "Gauge" [⟨"level", "Level", .float, false, false⟩] (by decide)

/-- The row of a gauge that stands between two marks below zero. -/
def lowGauge : String → Option Quantity
  | "level" => some (.fraction (-7 / 2))
  | _ => none

/-- A conversion to integers that gives the nearest integer with 64 bits where there is none. -/
def saturated (x : ℚ) : Option ℤ := some (max (-2 ^ 63) (min (2 ^ 63 - 1) (truncation x)))

/-- A conversion that stays within bounds cuts off the fraction there. -/
lemma saturated_truncates : Truncates saturated := by
  intro x hx
  obtain ⟨hlow, hhigh⟩ := abs_lt.mp hx
  have hbounds : -2 ^ 63 ≤ truncation x ∧ truncation x ≤ 2 ^ 63 - 1 := by
    rw [truncation]
    split
    case isTrue hneg =>
      have hceil : ⌈x⌉ ≤ 0 := Int.ceil_le.mpr (by push_cast; exact hneg.le)
      have hfloor : -2 ^ 63 < ⌈x⌉ := Int.lt_ceil.mpr (by push_cast; exact hlow)
      omega
    case isFalse hpos =>
      have hfloor : 0 ≤ ⌊x⌋ := Int.floor_nonneg.mpr (not_lt.mp hpos)
      have hlt : ⌊x⌋ < 2 ^ 63 := Int.floor_lt.mpr (by push_cast; exact hhigh)
      omega
  rw [saturated, min_eq_right hbounds.2, max_eq_right hbounds.1]

/-- The level of a gauge, or three if it is higher. -/
def cappedLevel : Expr := .call .min [.column ⟨⟨0⟩, 0⟩, .value (.int 3)]

/-- The capped level of a gauge at minus three and a half is rounded to minus four, and the cap is
bound four times; the larger one of the rounded level and three is three. -/
theorem emulated_calls_compute_gauges :
    Truncates saturated ∧ cappedLevel.IsOperand (Query.all gaugeTable ⟨0⟩) ∧
      cappedLevel.Computes .sqlite (Query.all gaugeTable ⟨0⟩) lowGauge saturated (-7 / 2) [.int 3] ∧
      (Expr.call .floor [cappedLevel]).Computes .sqlite (Query.all gaugeTable ⟨0⟩) lowGauge
        saturated (-4) [.int 3, .int 3, .int 3, .int 3] ∧
      ∃ vs, (Expr.call .max [.call .floor [cappedLevel], .value (.int 3)]).Computes .sqlServer
        (Query.all gaugeTable ⟨0⟩) lowGauge saturated 3 vs := by
  have hthree : (Expr.value (.int 3)).Denotes (Query.all gaugeTable ⟨0⟩) lowGauge 3 := .value rfl
  have hcapped : cappedLevel.Denotes (Query.all gaugeTable ⟨0⟩) lowGauge (-7 / 2) := by
    have hlevel : (Expr.column ⟨⟨0⟩, 0⟩).Denotes (Query.all gaugeTable ⟨0⟩) lowGauge (-7 / 2) :=
      .column (c := ⟨"level", "Level", .float, false, false⟩) rfl rfl rfl
    have hmin : extreme false (-7 / 2) 3 = -7 / 2 := min_eq_left (by norm_num)
    rw [← hmin]
    exact .selection false hlevel hthree
  have hfloor : ⌊(-7 / 2 : ℚ)⌋ = -4 := by
    rw [Int.floor_eq_iff]
    norm_num
  have hsmall : |(-7 / 2 : ℚ)| < 2 ^ 63 := by
    rw [abs_lt]
    norm_num
  have hlarger : extreme true ((-4 : ℤ) : ℚ) 3 = 3 := max_eq_right (by norm_num)
  obtain ⟨-, hrounded, -, hdenoted⟩ :=
    emulated_calls_compute (Query.all gaugeTable ⟨0⟩) lowGauge saturated saturated_truncates
  have hcomputes : cappedLevel.Computes .sqlite (Query.all gaugeTable ⟨0⟩) lowGauge saturated
      (-7 / 2) [.int 3] := by
    obtain ⟨vs, hvs⟩ := hdenoted .sqlite _ _ hcapped
    obtain ⟨rfl, -⟩ := (Expr.computes_iff rfl rfl ⟨_, rfl⟩).mp hvs
    exact hvs
  have hfloored := (hrounded _ _ _ hcapped.isOperand hcomputes hsmall).1
  have hnested := (Expr.Denotes.rounding false hcapped hsmall).selection true hthree
  rw [hfloor] at hfloored
  rw [nearest, if_neg Bool.false_ne_true, hfloor, hlarger] at hnested
  refine ⟨saturated_truncates, hcapped.isOperand, hcomputes, ?_, hdenoted .sqlServer _ _ hnested⟩
  exact_mod_cast hfloored

end Gauges

end TableQuery
