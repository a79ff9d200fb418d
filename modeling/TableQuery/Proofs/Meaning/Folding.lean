import TableQuery.Proofs.Emission.Gives
import TableQuery.Proofs.Meaning.Operators
import TableQuery.Proofs.Meaning.Typing

/-!
# Folding expressions of a class

What is known when an expression of a class folds to a value: which operands have values, and how
the value comes from theirs.  There is one lemma for each kind of expression.  With them, the value
of an expression is of its class (`Expr.HasType.type?_of_fold`).
-/

namespace TableQuery

section Values

variable {v : Value}

/-- A value of the class of integers is one. -/
lemma Value.int_of_type? (h : v.type? = some .int) : ∃ n, v = .int n := by
  cases v with
  | int n => exact ⟨n, rfl⟩
  | _ => cases h

/-- A value of the class of truth values is one. -/
lemma Value.bool_of_type? (h : v.type? = some .bool) : ∃ b, v = .bool b := by
  cases v with
  | bool b => exact ⟨b, rfl⟩
  | _ => cases h

/-- A value of the class of texts is one. -/
lemma Value.text_of_type? (h : v.type? = some .text) : ∃ s, v = .text s := by
  cases v with
  | text s => exact ⟨s, rfl⟩
  | _ => cases h

/-- A value of a class is not null. -/
lemma Value.isNull_of_type? {ty : ColumnType} (h : v.type? = some ty) : v.isNull = false := by
  cases v with
  | null => cases h
  | _ => rfl

end Values

section Folding

variable {op : BinaryOp} {l r e : Expr} {v : Value}

/-- Whether an expression can only fold to values of a class. -/
def FoldsTo (e : Expr) (ty : ColumnType) : Prop := ∀ v, e.fold = .ok v → v.type? = some ty

/-- An operator of one operand has a value only if its operand has one. -/
lemma fold_unary {op : UnaryOp} (h : (Expr.unary op e).fold = .ok v) :
    ∃ a, e.fold = .ok a ∧ Fold.unary op a = .ok v := by
  rw [Expr.fold] at h
  exact ok_of_bind h

/-- A conversion has a value only if its operand has one. -/
lemma fold_cast {ty : ColumnType} {implicit : Bool} (h : (Expr.cast e ty implicit).fold = .ok v) :
    ∃ a, e.fold = .ok a ∧ a.cast ty = .ok v := by
  rw [Expr.fold] at h
  exact ok_of_bind h

/-- A negation has the other truth value than its operand. -/
lemma fold_not (he : FoldsTo e .bool) (h : (Expr.unary .not e).fold = .ok v) :
    ∃ b, e.fold = .ok (.bool b) ∧ v = .bool !b := by
  obtain ⟨a, ha, h⟩ := fold_unary h
  obtain ⟨b, rfl⟩ := Value.bool_of_type? (he a ha)
  cases h
  exact ⟨b, ha, rfl⟩

/-- An operator with two operands: the left one decides, or both do. -/
lemma fold_binary (h : (Expr.binary op l r).fold = .ok v) :
    ∃ a, l.fold = .ok a ∧ (Fold.decided? op a = some v ∨
      Fold.decided? op a = none ∧ ∃ b, r.fold = .ok b ∧ Fold.binary op a b = .ok v) := by
  rw [Expr.fold] at h
  obtain ⟨a, ha, h⟩ := ok_of_bind h
  refine ⟨a, ha, ?_⟩
  cases hd : Fold.decided? op a with
  | some w =>
    rw [hd] at h
    cases h
    exact .inl rfl
  | none =>
    rw [hd] at h
    exact .inr ⟨rfl, ok_of_bind h⟩

/-- The value of an operator with two operands, once the left one has a value. -/
lemma fold_binary_eq {a : Value} (hl : l.fold = .ok a) :
    (Expr.binary op l r).fold = match Fold.decided? op a with
      | some v => .ok v
      | none => r.fold >>= Fold.binary op a := by
  rw [Expr.fold, hl]
  rfl

/-- The value of an operator that its left operand does not decide. -/
lemma fold_binary_of_both {a b : Value} (hl : l.fold = .ok a) (h : Fold.decided? op a = none)
    (hr : r.fold = .ok b) : (Expr.binary op l r).fold = Fold.binary op a b := by
  rw [fold_binary_eq hl, h, hr]
  rfl

/-- An operator that is never decided by its first operand has a value only if both have one. -/
lemma fold_both (hop : ∀ a, Fold.decided? op a = none) (h : (Expr.binary op l r).fold = .ok v) :
    ∃ a b, l.fold = .ok a ∧ r.fold = .ok b ∧ Fold.binary op a b = .ok v := by
  obtain ⟨a, ha, hd | ⟨-, b, hb, hv⟩⟩ := fold_binary h
  · rw [hop a] at hd
    cases hd
  · exact ⟨a, b, ha, hb, hv⟩

/-- A logical operator decided by one truth value on the left: the left operand has that value, or
it has the other one and the right operand decides. -/
lemma fold_logical {c : Bool} (hdecides : Fold.decided? op (.bool c) = some (.bool c))
    (hleaves : Fold.decided? op (.bool !c) = none)
    (hright : ∀ b, Fold.binary op (.bool !c) (.bool b) = .ok (.bool b))
    (hl : FoldsTo l .bool) (hr : FoldsTo r .bool) (h : (Expr.binary op l r).fold = .ok v) :
    (l.fold = .ok (.bool c) ∧ v = .bool c) ∨
      l.fold = .ok (.bool !c) ∧ ∃ b, r.fold = .ok (.bool b) ∧ v = .bool b := by
  obtain ⟨a, ha, hd⟩ := fold_binary h
  obtain ⟨b, rfl⟩ := Value.bool_of_type? (hl a ha)
  obtain rfl | rfl : b = c ∨ b = !c := by cases b <;> cases c <;> simp
  · rw [hdecides] at hd
    obtain hd | ⟨hd, -⟩ := hd <;> cases hd
    exact .inl ⟨ha, rfl⟩
  · rw [hleaves] at hd
    obtain hd | ⟨-, w, hw, hv⟩ := hd
    · cases hd
    · obtain ⟨b, rfl⟩ := Value.bool_of_type? (hr w hw)
      rw [hright] at hv
      cases hv
      exact .inr ⟨ha, b, hw, rfl⟩

/-- A conjunction: the left operand is false, or it is true and the right one decides. -/
lemma fold_and (hl : FoldsTo l .bool) (hr : FoldsTo r .bool)
    (h : (Expr.binary .and l r).fold = .ok v) :
    (l.fold = .ok (.bool false) ∧ v = .bool false) ∨
      l.fold = .ok (.bool true) ∧ ∃ b, r.fold = .ok (.bool b) ∧ v = .bool b :=
  fold_logical (c := false) rfl rfl (fun _ => rfl) hl hr h

/-- A disjunction: the left operand is true, or it is false and the right one decides. -/
lemma fold_or (hl : FoldsTo l .bool) (hr : FoldsTo r .bool)
    (h : (Expr.binary .or l r).fold = .ok v) :
    (l.fold = .ok (.bool true) ∧ v = .bool true) ∨
      l.fold = .ok (.bool false) ∧ ∃ b, r.fold = .ok (.bool b) ∧ v = .bool b :=
  fold_logical (c := true) rfl rfl (fun _ => rfl) hl hr h

/-- A comparison has a value only if both operands have one. -/
lemma fold_comparison (hop : op.isComparison = true) (h : (Expr.binary op l r).fold = .ok v) :
    ∃ a b, l.fold = .ok a ∧ r.fold = .ok b ∧ Fold.comparison op a b = .ok v := by
  have hboth : ∀ a, Fold.decided? op a = none := by
    cases op with
    | equal | notEqual | lessThan | lessThanOrEqual | greaterThan | greaterThanOrEqual =>
      exact fun _ => rfl
    | _ => cases hop
  obtain ⟨a, b, ha, hb, hv⟩ := fold_both hboth h
  refine ⟨a, b, ha, hb, ?_⟩
  cases op with
  | equal | notEqual | lessThan | lessThanOrEqual | greaterThan | greaterThanOrEqual => exact hv
  | _ => cases hop

/-- The value of a comparison is a truth value. -/
lemma bool_of_comparison {a b : Value} (h : Fold.comparison op a b = .ok v) :
    ∃ c, v = .bool c := by
  unfold Fold.comparison at h
  split at h
  · cases h
    exact ⟨_, rfl⟩
  · split at h
    · cases h
      exact ⟨_, rfl⟩
    · split at h
      · cases h
        exact ⟨_, rfl⟩
      · split at h
        · cases h
          exact ⟨_, rfl⟩
        · cases h

/-- A numeric operator is never decided by its first operand. -/
lemma BinaryOp.undecided (hop : op.isNumeric = true) (a : Value) : Fold.decided? op a = none := by
  cases op with
  | add | subtract | multiply | divide | modulo | bitwiseAnd | bitwiseOr | exclusiveOr => rfl
  | _ => cases hop

/-- A numeric operator on integers. -/
lemma fold_numeric (hop : op.isNumeric = true) (hl : FoldsTo l .int) (hr : FoldsTo r .int)
    (h : (Expr.binary op l r).fold = .ok v) :
    ∃ a b, l.fold = .ok (.int a) ∧ r.fold = .ok (.int b) ∧
      Fold.binary op (.int a) (.int b) = .ok v := by
  obtain ⟨a, b, ha, hb, hv⟩ := fold_both (BinaryOp.undecided hop) h
  obtain ⟨m, rfl⟩ := Value.int_of_type? (hl a ha)
  obtain ⟨n, rfl⟩ := Value.int_of_type? (hr b hb)
  exact ⟨m, n, ha, hb, hv⟩

/-- The sum of two texts is the one after the other. -/
lemma fold_join (hl : FoldsTo l .text) (hr : FoldsTo r .text)
    (h : (Expr.binary .add l r).fold = .ok v) :
    ∃ s t, l.fold = .ok (.text s) ∧ r.fold = .ok (.text t) ∧ v = .text (s ++ t) := by
  obtain ⟨a, b, ha, hb, hv⟩ := fold_both (fun _ => rfl) h
  obtain ⟨s, rfl⟩ := Value.text_of_type? (hl a ha)
  obtain ⟨t, rfl⟩ := Value.text_of_type? (hr b hb)
  cases hv
  exact ⟨s, t, ha, hb, rfl⟩

/-- The concatenation of two texts is the one after the other. -/
lemma fold_concat (hl : FoldsTo l .text) (hr : FoldsTo r .text)
    (h : (Expr.call .concat [l, r]).fold = .ok v) :
    ∃ s t, l.fold = .ok (.text s) ∧ r.fold = .ok (.text t) ∧ v = .text (s ++ t) := by
  rw [Expr.fold] at h
  obtain ⟨args, hargs, h⟩ := ok_of_bind (x := foldAll [l, r]) h
  rw [foldAll] at hargs
  obtain ⟨a, ha, hargs⟩ := ok_of_bind hargs
  obtain ⟨rest, hrest, hargs⟩ := ok_of_bind hargs
  rw [foldAll] at hrest
  obtain ⟨b, hb, hrest⟩ := ok_of_bind hrest
  cases hrest
  cases hargs
  obtain ⟨s, rfl⟩ := Value.text_of_type? (hl a ha)
  obtain ⟨t, rfl⟩ := Value.text_of_type? (hr b hb)
  cases h
  exact ⟨s, t, ha, hb, rfl⟩

/-- Of two values, the first is taken unless it is null, and no value of a class is. -/
lemma fold_coalesce {ty : ColumnType} (hl : FoldsTo l ty)
    (h : (Expr.binary .coalesce l r).fold = .ok v) : l.fold = .ok v := by
  obtain ⟨a, ha, hd⟩ := fold_binary h
  have hnull := Value.isNull_of_type? (hl a ha)
  have hdecided : Fold.decided? .coalesce a = some a := by
    rw [Fold.decided?, hnull]
    rfl
  rw [hdecided] at hd
  obtain hd | ⟨hd, -⟩ := hd <;> cases hd
  exact ha

/-- A choice has the value that its test chooses. -/
lemma fold_conditional {test yes no : Expr} (h : (Expr.conditional test yes no).fold = .ok v) :
    ∃ b, test.fold = .ok (.bool b) ∧ (if b then yes.fold else no.fold) = .ok v := by
  rw [Expr.fold] at h
  obtain ⟨a, ha, h⟩ := ok_of_bind h
  cases a with
  | bool b =>
    refine ⟨b, ha, ?_⟩
    cases b <;> exact h
  | _ => cases h

/-- A test for membership in a list has the truth value that its operand is a member. -/
lemma fold_inList {members : List Value} (h : (Expr.inList e members).fold = .ok v) :
    ∃ a, e.fold = .ok a ∧ v = .bool (Fold.isMember a members) := by
  rw [Expr.fold] at h
  obtain ⟨a, ha, h⟩ := ok_of_bind h
  cases h
  exact ⟨a, ha, rfl⟩

end Folding

/-- The value of an expression on a row is of the class of the expression. -/
theorem Expr.HasType.type?_of_fold {t : Table} {source : SourceId} {row : List Value} {e : Expr}
    {ty : ColumnType} (hrow : t.Holds row) (h : e.HasType t source ty) :
    FoldsTo (e.onRow row) ty := by
  induction h with
  | value _ hv =>
    intro v h
    cases h
    exact hv
  | @column ref c _ _ hc =>
    intro v h
    obtain ⟨w, hw, hty⟩ := hrow ref.column c hc
    rw [Expr.onRow, hw] at h
    cases h
    exact hty
  | not _ ih =>
    intro v h
    obtain ⟨b, -, rfl⟩ := fold_not ih h
    rfl
  | sign hop _ ih =>
    intro v h
    obtain ⟨a, ha, h⟩ := fold_unary h
    obtain ⟨n, rfl⟩ := Value.int_of_type? (ih a ha)
    exact (Sql.signed_of_unary hop h).2
  | @logical op l r hop _ _ ihl ihr =>
    intro v h
    -- The left operand may decide alone, and what the right one folds to is then not known.
    cases op with
    | and => obtain ⟨-, rfl⟩ | ⟨-, b, -, rfl⟩ := fold_and ihl ihr h <;> rfl
    | or => obtain ⟨-, rfl⟩ | ⟨-, b, -, rfl⟩ := fold_or ihl ihr h <;> rfl
    | _ => cases hop
  | comparison hop _ _ _ _ =>
    intro v h
    obtain ⟨a, b, -, -, h⟩ := fold_comparison hop h
    obtain ⟨c, rfl⟩ := bool_of_comparison h
    rfl
  | numeric hop _ _ ihl ihr =>
    intro v h
    obtain ⟨a, b, -, -, h⟩ := fold_numeric hop ihl ihr h
    exact (Sql.operated_of_binary hop h).2
  | join _ _ ihl ihr =>
    intro v h
    obtain ⟨s, t, -, -, rfl⟩ := fold_join ihl ihr h
    rfl
  | concat _ _ ihl ihr =>
    intro v h
    obtain ⟨s, t, -, -, rfl⟩ := fold_concat ihl ihr h
    rfl
  | coalesce _ _ ihl _ => exact fun v h => ihl v (fold_coalesce ihl h)
  | conditional _ _ _ _ ihy ihn =>
    intro v h
    obtain ⟨b, -, h⟩ := fold_conditional h
    cases b with
    | true => exact ihy v h
    | false => exact ihn v h
  | inList _ _ _ =>
    intro v h
    obtain ⟨a, -, rfl⟩ := fold_inList h
    rfl

end TableQuery
