import TableQuery.Proofs.Constant.Independence

/-!
# The classes of constants

The class that is inferred for an expression is that of the value it folds to
(`Expr.inferType_of_fold`), if the two sides of every choice and of every alternative for null have
classes that agree.  Inference looks at the classes of the operands of an operator, evaluation at
their values; `BinaryOp.resultType` says what the former makes of the classes, and
`Fold.BinaryResult` what the latter makes of the values.

They part in one place: inference takes arithmetic on enumerations and integers for arithmetic on
enumerations or integers, and evaluation computes it with floats (`Fold.binary_mixesEnum`).
-/

namespace TableQuery

/-- Whether two classes that were inferred do not contradict each other. -/
def Compatible (tl tr : Option ColumnType) : Prop := tl = tr ∨ tl = none ∨ tr = none

/-- The class that is inferred for an operator between operands of two classes. -/
def BinaryOp.resultType (op : BinaryOp) (tl tr : Option ColumnType) : Option ColumnType :=
  if op.isPredicate then some .bool
  else if op = .coalesce then tl <|> tr
  else if op = .add ∧ (tl = some .text ∨ tr = some .text) then some .text
  else if tl = some .float ∨ tr = some .float then some .float
  else tl <|> tr

/-- Whether the two sides of an expression that has the value of one of them agree. -/
def Expr.SidesAgree (columnType : ColumnRef → Option ColumnType) : Expr → Prop
  | .conditional _ x y | .binary .coalesce x y =>
    Compatible (x.inferType columnType) (y.inferType columnType)
  | _ => True

/-- Whether an expression is no arithmetic that takes an enumeration for a float. -/
def Expr.KeepsEnums : Expr → Prop
  | .binary op l r => op.isArithmetic = true → ∀ a b, l.fold = .ok a → r.fold = .ok b →
    a.mixesEnum b = false
  | _ => True

section Operators

variable {op : BinaryOp} {tl tr : Option ColumnType} {ty : ColumnType}

/-- Of two classes that do not contradict each other, the first that is known is either. -/
lemma Compatible.orElse (h : Compatible tl tr) (hty : tl = some ty ∨ tr = some ty) :
    (tl <|> tr) = some ty := by
  obtain rfl | rfl | rfl := h
  · obtain rfl | rfl := hty <;> rfl
  · obtain h | rfl := hty
    · cases h
    · rfl
  · obtain rfl | h := hty
    · rfl
    · cases h

/-- The class of an operator between operands of one class other than text. -/
lemma BinaryOp.resultType_same (hpredicate : op.isPredicate = false) (hcoalesce : op ≠ .coalesce)
    (hty : ty ≠ .text) : op.resultType (some ty) (some ty) = some ty := by
  unfold resultType
  rw [hpredicate, if_neg Bool.false_ne_true, if_neg hcoalesce, if_neg (by simp [hty])]
  split
  case isTrue hfloat => rw [(or_self_iff.mp hfloat)]
  case isFalse => rfl

/-- The class of arithmetic that a float takes part in. -/
lemma BinaryOp.resultType_float {tl tr : ColumnType} (hop : op.isArithmetic = true)
    (hl : tl.isNumeric = true) (hr : tr.isNumeric = true) (hfloat : tl = .float ∨ tr = .float) :
    op.resultType (some tl) (some tr) = some .float := by
  have hplain : op.isPredicate = false ∧ op ≠ .coalesce := by
    cases op with
    | add | subtract | multiply | divide | modulo => exact ⟨rfl, nofun⟩
    | _ => cases hop
  have htext : ¬ (op = .add ∧ (some tl = some ColumnType.text ∨ some tr = some .text)) := by
    rintro ⟨-, h | h⟩
    · cases h
      cases hl
    · cases h
      cases hr
  unfold resultType
  rw [hplain.1, if_neg Bool.false_ne_true, if_neg hplain.2, if_neg htext, if_pos]
  exact hfloat.imp (congrArg some) (congrArg some)

/-- A sum with a text on either side is a text. -/
lemma BinaryOp.resultType_text (h : tl = some .text ∨ tr = some .text) :
    add.resultType tl tr = some .text := by
  unfold resultType
  rw [if_neg (by decide), if_neg nofun, if_pos ⟨rfl, h⟩]

/-- The class inferred for an operator is that of its value, if this is so of its operands. -/
lemma Fold.BinaryResult.resultType {l r v : Value} (h : BinaryResult op l r v)
    (hcompatible : op = .coalesce → Compatible tl tr)
    (henum : op.isArithmetic = true → l.mixesEnum r = false)
    (hl : ∀ ty, l.type? = some ty → tl = some ty) (hr : ∀ ty, r.type? = some ty → tr = some ty)
    (hty : v.type? = some ty) : op.resultType tl tr = some ty := by
  cases h with
  | null => cases hty
  | left hop =>
    subst hop
    exact (hcompatible rfl).orElse (.inl (hl ty hty))
  | right hop _ =>
    subst hop
    exact (hcompatible rfl).orElse (.inr (hr ty hty))
  | truth b hop =>
    cases hty
    exact if_pos hop
  | text s hop htext =>
    subst hop
    cases hty
    exact BinaryOp.resultType_text (htext.imp (fun h => hl _ (beq_iff_eq.mp h))
      fun h => hr _ (beq_iff_eq.mp h))
  | int n hpredicate hcoalesce htl htr =>
    cases hty
    rw [hl _ htl, hr _ htr]
    exact BinaryOp.resultType_same hpredicate hcoalesce nofun
  | float x hop htl htr hnuml hnumr hfloat =>
    cases hty
    rw [hl _ htl, hr _ htr]
    refine BinaryOp.resultType_float hop hnuml hnumr ?_
    obtain hfloat | hfloat | hmixes := hfloat
    · exact .inl hfloat
    · exact .inr hfloat
    · rw [henum hop] at hmixes
      cases hmixes
  -- Bits are combined of two values of one class only, so no class has to be chosen.
  | bits b hop htl htr =>
    cases hty
    rw [hl _ htl, hr _ htr]
    cases op with
    | bitwiseAnd | bitwiseOr | exclusiveOr => rfl
    | _ => cases hop

/-- A value that decides an operator on its own is a truth value, or the alternative for null is not
needed. -/
lemma Fold.decided_cases {a v : Value} (h : decided? op a = some v) :
    (op.isPredicate = true ∧ v.type? = some .bool) ∨ op = .coalesce ∧ v = a := by
  unfold decided? at h
  split at h
  · cases h
    exact .inl ⟨rfl, rfl⟩
  · cases h
    exact .inl ⟨rfl, rfl⟩
  · split at h
    · cases h
    · cases h
      exact .inr ⟨rfl, rfl⟩
  · cases h

end Operators

section Expressions

variable {columnType : ColumnRef → Option ColumnType} {e : Expr} {v : Value} {ty : ColumnType}

/-- The storage class of an operator of two operands follows from theirs. -/
lemma Expr.inferType_binary (op : BinaryOp) (l r : Expr) :
    (binary op l r).inferType columnType =
      op.resultType (l.inferType columnType) (r.inferType columnType) := rfl

/-- If an expression folds to a value of a class, this is the class that is inferred for it. -/
lemma Expr.inferType_of_type? (hsides : ∀ x : Expr, x.Within e → x.SidesAgree columnType)
    (henums : ∀ x : Expr, x.Within e → x.KeepsEnums) (h : e.fold = .ok v)
    (hty : v.type? = some ty) : e.inferType columnType = some ty := by
  -- That a class is inferred at all is part of what is shown: if none were inferred for one
  -- operand, arithmetic would take the class of the other.
  induction e using Expr.operand_induction generalizing v ty with
  | step e ih =>
    obtain ⟨hsides, hoperands⟩ := forall_within.mp hsides
    obtain ⟨hkeeps, henums⟩ := forall_within.mp henums
    replace ih : ∀ x ∈ e.operands, ∀ {v : Value} {ty : ColumnType}, x.fold = .ok v →
        v.type? = some ty → x.inferType columnType = some ty :=
      fun x hx _ _ => ih x hx (hoperands x hx) (henums x hx)
    cases e with
    | value w =>
      cases h
      exact hty
    | column ref | inSubquery e q | «exists» q condition => cases h
    | cast e target implicit =>
      obtain ⟨a, -, hcast⟩ := fold_cast h
      rw [(Fold.cast_yields a target).of_ok hcast] at hty
      split at hty
      · cases hty
      · exact hty
    | unary op e =>
      obtain ⟨a, ha, hunary⟩ := fold_unary h
      obtain ⟨hsame, hnot⟩ := (Fold.unary_yields a op).of_ok hunary
      rw [hsame] at hty
      cases op with
      | not =>
        obtain hnull | hbool := hnot rfl
        · rw [Value.isNull_of_type? hty] at hnull
          cases hnull
        · rw [← hty, hbool]
          rfl
      | negate | bitwiseNot => exact ih e (by simp [operands]) ha hty
    | inList e members =>
      obtain ⟨a, -, rfl⟩ := fold_inList h
      exact hty
    | binary op l r =>
      rw [inferType_binary]
      obtain ⟨a, ha, hd | ⟨-, b, hb, hbinary⟩⟩ := fold_binary h
      · obtain ⟨hop, hbool⟩ | ⟨rfl, rfl⟩ := Fold.decided_cases hd
        · rw [← hty, hbool]
          exact if_pos hop
        · exact hsides.orElse (.inl (ih l (by simp [operands]) ha hty))
      · refine ((Fold.binary_yields a b).of_ok hbinary).resultType ?_
          (fun hop => hkeeps hop a b ha hb) (fun ty => ih l (by simp [operands]) ha)
          (fun ty => ih r (by simp [operands]) hb) hty
        rintro rfl
        exact hsides
    | conditional test yes no =>
      obtain ⟨b, -, hbranch⟩ := fold_conditional h
      cases b with
      | true => exact hsides.orElse (.inl (ih yes (by simp [operands]) hbranch hty))
      | false => exact hsides.orElse (.inr (ih no (by simp [operands]) hbranch hty))
    | call func args =>
      obtain ⟨hfoldable, vs, -, hcall⟩ := fold_call h
      obtain hnull | hkind := (Fold.call_yields vs hfoldable).of_ok hcall
      · rw [Value.isNull_of_type? hty] at hnull
        cases hnull
      · cases args with
        | _ => exact (hkind _).symm.trans hty

/-- The class that is inferred for an expression is the one of the value it folds to, unless this is
null: if the two sides of every choice and of every alternative for null agree, and no arithmetic in
it takes an enumeration for a float. -/
theorem Expr.inferType_of_fold (hsides : ∀ x : Expr, x.Within e → x.SidesAgree columnType)
    (henums : ∀ x : Expr, x.Within e → x.KeepsEnums) (h : e.fold = .ok v) (hnull : v ≠ .null) :
    e.inferType columnType = v.type? := by
  cases hty : v.type? with
  | none =>
    cases v with
    | null => exact absurd rfl hnull
    | _ => cases hty
  | some ty => exact inferType_of_type? hsides henums h hty

/-- A choice between a product and null. -/
def Expr.productChoice : Expr :=
  .conditional (.binary .lessThan (.value (.int 1)) (.value (.int 2)))
    (.binary .multiply (.value (.int 3)) (.value (.int 4))) null

/-- A choice that takes the product folds to an integer, as it is inferred. -/
theorem Expr.inferType_of_fold_choice :
    productChoice.fold = .ok (.int 12) ∧
      productChoice.inferType (fun _ => none) = (Value.int 12).type? := by
  refine ⟨rfl, inferType_of_fold ?sides ?enums rfl nofun⟩
  case sides => simp [productChoice, null, SidesAgree, Compatible, inferType, Value.type?]
  case enums => simp [productChoice, null, KeepsEnums, fold, Value.mixesEnum]

end Expressions

section Enumerations

variable {op : BinaryOp} {a b : Value}

/-- Arithmetic takes enumerations for floats if they stand beside enumerations or integers. -/
lemma Value.mixesEnum_cases (h : a.mixesEnum b = true) :
    (∃ m n, a = .enum m ∧ b = .enum n) ∨ (∃ m n, a = .enum m ∧ b = .int n) ∨
      ∃ m n, a = .int m ∧ b = .enum n := by
  unfold mixesEnum at h
  split at h
  · exact .inl ⟨_, _, rfl, rfl⟩
  · exact .inr (.inl ⟨_, _, rfl, rfl⟩)
  · exact .inr (.inr ⟨_, _, rfl, rfl⟩)
  · cases h

/-- Arithmetic that takes an enumeration for a float gives a float. -/
lemma Fold.binary_mixesEnum (hop : op.isArithmetic = true) (h : a.mixesEnum b = true) :
    ∃ x, binary op a b = .ok (.float x) := by
  cases op with
  | add | subtract | multiply | divide | modulo =>
    obtain ⟨m, n, rfl, rfl⟩ | ⟨m, n, rfl, rfl⟩ | ⟨m, n, rfl, rfl⟩ := Value.mixesEnum_cases h <;>
      exact ⟨_, rfl⟩
  | _ => cases hop

/-- The class inferred for arithmetic on enumerations and integers is not that of floats. -/
lemma BinaryOp.resultType_mixesEnum (hop : op.isArithmetic = true) (h : a.mixesEnum b = true) :
    ∃ t, op.resultType a.type? b.type? = some t ∧ t ≠ .float := by
  cases op with
  | add | subtract | multiply | divide | modulo =>
    obtain ⟨m, n, rfl, rfl⟩ | ⟨m, n, rfl, rfl⟩ | ⟨m, n, rfl, rfl⟩ := Value.mixesEnum_cases h <;>
      exact ⟨_, rfl, nofun⟩
  | _ => cases hop

/-- Arithmetic on enumerations and integers always folds to a float, although another class is
inferred for it. -/
theorem Expr.mixesEnum_mistyped {columnType : ColumnRef → Option ColumnType} {l r : Expr}
    (hop : op.isArithmetic = true) (hl : l.fold = .ok a) (hr : r.fold = .ok b)
    (htl : l.inferType columnType = a.type?) (htr : r.inferType columnType = b.type?)
    (h : a.mixesEnum b = true) :
    ∃ x t, (binary op l r).fold = .ok (.float x) ∧
      (binary op l r).inferType columnType = some t ∧ t ≠ .float := by
  obtain ⟨x, hx⟩ := Fold.binary_mixesEnum hop h
  obtain ⟨t, ht, hfloat⟩ := BinaryOp.resultType_mixesEnum hop h
  have hnumeric : op.isNumeric = true := by rw [BinaryOp.isNumeric, hop, Bool.true_or]
  refine ⟨x, t, ?fold, ?infer, hfloat⟩
  case fold =>
    rw [fold_binary_of_both hl (BinaryOp.undecided hnumeric a) hr]
    exact hx
  case infer => rw [inferType_binary, htl, htr, ht]

/-- The sum of an integer and an enumeration is inferred to be an integer and folds to a float. -/
theorem Expr.enum_sum_mistyped :
    ¬ ∀ (columnType : ColumnRef → Option ColumnType) (e : Expr) (v : Value) (t : ColumnType),
      (∀ x : Expr, x.Within e → x.SidesAgree columnType) → e.fold = .ok v → v ≠ .null →
        e.inferType columnType = some t → v.type? = some t := by
  intro hclaim
  have hsum : ∃ x, (binary .add (.value (.int 1)) (.value (.enum 2))).fold = .ok (.float x) :=
    ⟨_, rfl⟩
  obtain ⟨x, hx⟩ := hsum
  have htype := hclaim (fun _ => none) _ _ .int (by simp [SidesAgree]) hx nofun rfl
  cases htype

end Enumerations

end TableQuery
