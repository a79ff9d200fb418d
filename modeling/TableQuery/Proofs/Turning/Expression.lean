import TableQuery.Proofs.Family.Replacement
import TableQuery.Proofs.Operator

/-!
# Expressions with turned comparisons

In an expression or a query, some of the comparisons that have a constant on exactly one side are
turned, at any depth (`Expr.turn`, `Query.turn`).  What is decided by looking at an expression does
not change by this: a turned comparison is a comparison, a constant has nothing in it to be turned,
and it has no columns, so that the columns stay in order when a constant changes places with them.
-/

namespace TableQuery

mutual

/-- An expression in which the comparisons at some places are turned, if they have a constant on
exactly one side. -/
def Expr.turn (places : Path → Bool) : Path → Expr → Expr
  | _, .value v => .value v
  | _, .column ref => .column ref
  | p, .unary op e => .unary op (e.turn places (0 :: p))
  | p, .binary op l r =>
    let l' := l.turn places (0 :: p)
    let r' := r.turn places (1 :: p)
    if places p && op.isComparison && l.isConst != r.isConst then .binary op.commute r' l'
    else .binary op l' r'
  | p, .cast e ty implicit => .cast (e.turn places (0 :: p)) ty implicit
  | p, .conditional test yes no =>
    .conditional (test.turn places (0 :: p)) (yes.turn places (1 :: p)) (no.turn places (2 :: p))
  | p, .call func args => .call func (listTurn places p 0 args)
  | p, .inList e members => .inList (e.turn places (0 :: p)) members
  | p, .inSubquery e q => .inSubquery (e.turn places (0 :: p)) (q.turn places (1 :: p))
  | p, .exists q condition =>
    .exists (q.turn places (0 :: p)) (optionTurn places (1 :: p) condition)

/-- Several expressions with turned comparisons, where the first has position `i`. -/
def listTurn (places : Path → Bool) (p : Path) : Nat → List Expr → List Expr
  | _, [] => []
  | i, e :: es => e.turn places (i :: p) :: listTurn places p (i + 1) es

/-- An expression that may be absent, with turned comparisons. -/
def optionTurn (places : Path → Bool) : Path → Option Expr → Option Expr
  | _, none => none
  | p, some e => some (e.turn places p)

/-- A query with turned comparisons in its filter. -/
def Query.turn (places : Path → Bool) : Path → Query → Query
  | p, ⟨table, source, predicate, orderings, projection, skip, take, distinct, terminal⟩ =>
    ⟨table, source, optionTurn places p predicate, orderings, projection, skip, take, distinct,
      terminal⟩

end

section Decisions

variable {places : Path → Bool}

/-- A binary operator stays in place, or is a comparison with one constant side and is turned. -/
lemma Expr.turn_binary (p : Path) (op : BinaryOp) (l r : Expr) :
    (Expr.binary op l r).turn places p =
        .binary op (l.turn places (0 :: p)) (r.turn places (1 :: p)) ∨
      op.isComparison = true ∧ l.isConst ≠ r.isConst ∧
        (Expr.binary op l r).turn places p =
          .binary op.commute (r.turn places (1 :: p)) (l.turn places (0 :: p)) := by
  rw [Expr.turn]
  split
  case isTrue h =>
    simp only [Bool.and_eq_true, bne_iff_ne] at h
    exact .inr ⟨h.1.2, h.2, rfl⟩
  case isFalse => exact .inl rfl

mutual

/-- Whether an expression is constant does not depend on turned comparisons. -/
theorem Expr.isConst_turn : (e : Expr) → (p : Path) → (e.turn places p).isConst = e.isConst
  | .value _, _ | .column _, _ | .inSubquery .., _ | .exists .., _ => rfl
  | .unary _ e, p | .cast e _ _, p | .inList e _, p => e.isConst_turn (0 :: p)
  | .binary op l r, p => by
    have hl := l.isConst_turn (0 :: p)
    have hr := r.isConst_turn (1 :: p)
    rcases Expr.turn_binary p op l r with h | ⟨-, -, h⟩
    · rw [h, Expr.isConst, hl, hr, Expr.isConst]
    · rw [h, Expr.isConst, hl, hr, Expr.isConst, Bool.and_comm]
  | .conditional test yes no, p => by
    rw [Expr.turn, Expr.isConst, test.isConst_turn, yes.isConst_turn, no.isConst_turn, Expr.isConst]
  | .call func args, p => by rw [Expr.turn, Expr.isConst, areConst_turn, Expr.isConst]

/-- Turned expressions are constant just if they were. -/
theorem areConst_turn : (es : List Expr) → (p : Path) → (i : Nat) →
    Expr.areConst (listTurn places p i es) = Expr.areConst es
  | [], _, _ => rfl
  | e :: es, p, i => by
    rw [listTurn, Expr.areConst, e.isConst_turn, areConst_turn, Expr.areConst]

end

mutual

/-- A constant has no comparison with exactly one constant side. -/
theorem Expr.turn_of_isConst : (e : Expr) → (p : Path) → e.isConst = true → e.turn places p = e
  | .value _, _, _ => rfl
  | .column _, _, h | .inSubquery .., _, h | .exists .., _, h => by cases h
  | .unary op e, p, h => by rw [Expr.turn, e.turn_of_isConst _ h]
  | .cast e ty implicit, p, h => by rw [Expr.turn, e.turn_of_isConst _ h]
  | .inList e members, p, h => by rw [Expr.turn, e.turn_of_isConst _ h]
  | .binary op l r, p, h => by
    rw [Expr.isConst, Bool.and_eq_true] at h
    rcases Expr.turn_binary p op l r with hturn | ⟨-, hone, -⟩
    · rw [hturn, l.turn_of_isConst _ h.1, r.turn_of_isConst _ h.2]
    · exact absurd (h.1.trans h.2.symm) hone
  | .conditional test yes no, p, h => by
    simp only [Expr.isConst, Bool.and_eq_true] at h
    rw [Expr.turn, test.turn_of_isConst _ h.1.1, yes.turn_of_isConst _ h.1.2,
      no.turn_of_isConst _ h.2]
  | .call func args, p, h => by
    rw [Expr.isConst, Bool.and_eq_true] at h
    rw [Expr.turn, listTurn_of_areConst args p 0 h.2]

/-- Nothing is turned in constants. -/
theorem listTurn_of_areConst : (es : List Expr) → (p : Path) → (i : Nat) →
    Expr.areConst es = true → listTurn places p i es = es
  | [], _, _, _ => rfl
  | e :: es, p, i, h => by
    rw [Expr.areConst, Bool.and_eq_true] at h
    rw [listTurn, e.turn_of_isConst _ h.1, listTurn_of_areConst es p (i + 1) h.2]

end

mutual

/-- There are no columns in a constant. -/
theorem Expr.columns_of_isConst : (e : Expr) → e.isConst = true →
    e.leaves.filterMap Leaf.column? = []
  | .value _, _ => rfl
  | .column _, h | .inSubquery .., h | .exists .., h => by cases h
  | .unary _ e, h | .cast e _ _, h | .inList e _, h => e.columns_of_isConst h
  | .binary _ l r, h => by
    rw [Expr.isConst, Bool.and_eq_true] at h
    rw [Expr.leaves, List.filterMap_append, l.columns_of_isConst h.1, r.columns_of_isConst h.2,
      List.append_nil]
  | .conditional test yes no, h => by
    simp only [Expr.isConst, Bool.and_eq_true] at h
    rw [Expr.leaves, List.filterMap_append, List.filterMap_append, test.columns_of_isConst h.1.1,
      yes.columns_of_isConst h.1.2, no.columns_of_isConst h.2, List.append_nil, List.append_nil]
  | .call _ args, h => by
    rw [Expr.isConst, Bool.and_eq_true] at h
    exact listColumns_of_areConst args h.2

/-- There are no columns in constants. -/
theorem listColumns_of_areConst : (es : List Expr) → Expr.areConst es = true →
    (listLeaves es).filterMap Leaf.column? = []
  | [], _ => rfl
  | e :: es, h => by
    rw [Expr.areConst, Bool.and_eq_true] at h
    rw [listLeaves, List.filterMap_append, e.columns_of_isConst h.1,
      listColumns_of_areConst es h.2, List.append_nil]

end

/-- Where one of two operands is constant, their columns may be read in either order. -/
lemma Expr.columns_append_comm {l r : Expr} (h : l.isConst ≠ r.isConst) :
    l.leaves.filterMap Leaf.column? ++ r.leaves.filterMap Leaf.column? =
      r.leaves.filterMap Leaf.column? ++ l.leaves.filterMap Leaf.column? := by
  cases hl : l.isConst with
  | true => rw [l.columns_of_isConst hl, List.append_nil, List.nil_append]
  | false =>
    have hr : r.isConst = true := by
      rw [hl] at h
      simpa using h.symm
    rw [r.columns_of_isConst hr, List.append_nil, List.nil_append]

mutual

/-- The columns of an expression and their order do not depend on turned comparisons. -/
theorem Expr.columns_turn : (e : Expr) → (p : Path) →
    (e.turn places p).leaves.filterMap Leaf.column? = e.leaves.filterMap Leaf.column?
  | .value _, _ | .column _, _ => rfl
  | .unary _ e, p | .cast e _ _, p | .inList e _, p => e.columns_turn (0 :: p)
  | .binary op l r, p => by
    have hl := l.columns_turn (0 :: p)
    have hr := r.columns_turn (1 :: p)
    rcases Expr.turn_binary p op l r with h | ⟨-, hone, h⟩
    · rw [h, Expr.leaves, List.filterMap_append, hl, hr, Expr.leaves, List.filterMap_append]
    · rw [h, Expr.leaves, List.filterMap_append, hl, hr, Expr.leaves, List.filterMap_append,
        Expr.columns_append_comm hone]
  | .conditional test yes no, p => by
    simp only [Expr.turn, Expr.leaves, List.filterMap_append, test.columns_turn, yes.columns_turn,
      no.columns_turn]
  | .call _ args, p => listColumns_turn args p 0
  | .inSubquery e q, p => by
    simp only [Expr.turn, Expr.leaves, List.filterMap_append, e.columns_turn, q.columns_turn]
  | .exists q condition, p => by
    simp only [Expr.turn, Expr.leaves, List.filterMap_append, q.columns_turn, optionColumns_turn]

/-- Turned expressions have the same columns. -/
theorem listColumns_turn : (es : List Expr) → (p : Path) → (i : Nat) →
    (listLeaves (listTurn places p i es)).filterMap Leaf.column? =
      (listLeaves es).filterMap Leaf.column?
  | [], _, _ => rfl
  | e :: es, p, i => by
    simp only [listTurn, listLeaves, List.filterMap_append, e.columns_turn,
      listColumns_turn es p (i + 1)]

/-- A turned expression that may be absent has the same columns. -/
theorem optionColumns_turn : (o : Option Expr) → (p : Path) →
    (optionLeaves (optionTurn places p o)).filterMap Leaf.column? =
      (optionLeaves o).filterMap Leaf.column?
  | none, _ => rfl
  | some e, p => e.columns_turn p

/-- The filter of a turned query has the same columns. -/
theorem Query.columns_turn : (q : Query) → (p : Path) →
    (q.turn places p).leaves.filterMap Leaf.column? = q.leaves.filterMap Leaf.column?
  | ⟨_, _, predicate, _, _, _, _, _, _⟩, p => optionColumns_turn predicate p

end

/-- Whether an expression is a test does not depend on turned comparisons. -/
lemma Expr.isPredicate_turn (e : Expr) (p : Path) :
    (e.turn places p).isPredicate = e.isPredicate := by
  cases e with
  | binary op l r =>
    rcases Expr.turn_binary p op l r with h | ⟨-, -, h⟩
    · rw [h]
      rfl
    · rw [h]
      exact op.isPredicate_commute
  | _ => rfl

/-- The storage class of an expression does not depend on turned comparisons. -/
theorem Expr.inferType_turn (columnType : ColumnRef → Option ColumnType) :
    (e : Expr) → (p : Path) → (e.turn places p).inferType columnType = e.inferType columnType
  | .value _, _ | .column _, _ | .cast .., _ | .inList .., _ | .inSubquery .., _
  | .exists .., _ => rfl
  | .unary op e, p => by
    cases op with
    | not => rfl
    | negate | bitwiseNot => exact e.inferType_turn columnType (0 :: p)
  | .binary op l r, p => by
    have hl := l.inferType_turn columnType (0 :: p)
    have hr := r.inferType_turn columnType (1 :: p)
    rcases Expr.turn_binary p op l r with h | ⟨hop, -, h⟩
    · rw [h, Expr.inferType, hl, hr, Expr.inferType]
    · have htest := BinaryOp.isPredicate_of_isComparison hop
      rw [h, Expr.inferType, op.isPredicate_commute, htest, if_pos rfl, Expr.inferType, htest,
        if_pos rfl]
  | .conditional test yes no, p => by
    simp only [Expr.turn, Expr.inferType, yes.inferType_turn columnType,
      no.inferType_turn columnType]
  | .call func [], p => rfl
  | .call func (e :: es), p => by
    simp only [Expr.turn, listTurn, Expr.inferType, e.inferType_turn columnType]

end Decisions

namespace Sql

variable {places : Path → Bool} {ctx : Context}

/-- Whether the filter of a query reads a row in reach does not depend on turned comparisons. -/
lemma Context.isCorrelated_turn (q : Query) (p : Path) :
    ctx.isCorrelated (q.turn places p) = ctx.isCorrelated q := by
  obtain ⟨table, source, predicate, orderings, projection, skip, take, distinct, terminal⟩ := q
  cases predicate with
  | none => rfl
  | some e =>
    have hcolumns : (e.turn places p).columns = e.columns := e.columns_turn p
    simp only [Query.turn, optionTurn, isCorrelated, Expr.references, hcolumns]

/-- A turned expression has the same storage class. -/
lemma Context.inferType_turn (places : Path → Bool) (e : Expr) (p : Path) :
    ctx.inferType (e.turn places p) = ctx.inferType e :=
  e.inferType_turn ctx.columnType p

/-- To enter a turned query is to enter the query. -/
lemma Context.enter_turn (q : Query) (p : Path) (qualify : Bool) :
    ctx.enter (q.turn places p) qualify = ctx.enter q qualify := by
  cases q
  rfl

/-- The place in a turned membership query is that in the query. -/
lemma Context.inside_turn (q : Query) (p : Path) : ctx.inside (q.turn places p) = ctx.inside q := by
  rw [inside, isCorrelated_turn, enter_turn, inside]

/-- The storage class of an expression without implicit conversions does not depend on turned
comparisons. -/
theorem inferType_stripWidening_turn : (e : Expr) → (p : Path) →
    ctx.inferType (stripWidening ctx (e.turn places p)) = ctx.inferType (stripWidening ctx e)
  | .cast e ty true, p => by
    rw [Expr.turn, inferType_stripWidening_cast, inferType_stripWidening_cast,
      inferType_stripWidening_turn e (0 :: p)]
  | .cast e ty false, p => rfl
  | .value v, p => rfl
  | .column ref, p => rfl
  | .unary op e, p => Expr.inferType_turn ctx.columnType (.unary op e) p
  | .binary op l r, p => by
    have hstrip : stripWidening ctx ((Expr.binary op l r).turn places p) =
        (Expr.binary op l r).turn places p := by
      rcases Expr.turn_binary p op l r with h | ⟨-, -, h⟩
      · rw [h]
        rfl
      · rw [h]
        rfl
    rw [hstrip]
    exact Expr.inferType_turn ctx.columnType (.binary op l r) p
  | .conditional test yes no, p => Expr.inferType_turn ctx.columnType (.conditional test yes no) p
  | .call func args, p => Expr.inferType_turn ctx.columnType (.call func args) p
  | .inList .., p | .inSubquery .., p | .exists .., p => rfl

/-- Whether a conversion is looked through does not depend on turned comparisons. -/
lemma isWidening_turn (e : Expr) (p : Path) (ty : ColumnType) (implicit : Bool) :
    isWidening ctx (e.turn places p) ty implicit = isWidening ctx e ty implicit := by
  rw [isWidening, inferType_stripWidening_turn, isWidening]

end Sql

end TableQuery
