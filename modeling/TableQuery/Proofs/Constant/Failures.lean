import TableQuery.Proofs.Constant.Evaluation
import TableQuery.Proofs.Constant.Operands
import TableQuery.Query.Build

/-!
# Failures of folding

An expression that does not fold holds an expression whose operands have values, as far as they are
needed, and which fails itself (`Expr.exists_raises`).  Operators, calls, tests and most conversions
fail with an error that says that a constant has no value (`Error.isEvaluationFailed`).

The conversion of a text to an identifier is the exception: what is wrong with the text is reported
as it is.  So the failures of folding can be told from other errors just if they do not come from
such a text (`Expr.fold_failure_recognized`).
-/

namespace TableQuery

/-- Whether an error says that a constant has no value. -/
def Error.isEvaluationFailed (err : Error) : Bool :=
  match err.cause with
  | .evaluationFailed _ => true
  | _ => false

/-- How an expression fails to fold itself, while the operands that folding enters have values. -/
inductive Expr.Raises : Expr → Error → Prop
  | serverSide {e : Expr} : e.isServerSide = true →
    Raises e (Fold.fail (.notConstant e.describe))
  | unary {op : UnaryOp} {e : Expr} {a : Value} {err : Error} : e.fold = .ok a →
    Fold.unary op a = .error err → Raises (.unary op e) err
  | binary {op : BinaryOp} {l r : Expr} {a b : Value} {err : Error} : l.fold = .ok a →
    r.fold = .ok b → Fold.binary op a b = .error err → Raises (.binary op l r) err
  | cast {e : Expr} {a : Value} {ty : ColumnType} {implicit : Bool} {err : Error} :
    e.fold = .ok a → a.cast ty = .error err → Raises (.cast e ty implicit) err
  | test {test yes no : Expr} {a : Value} : test.fold = .ok a →
    Raises (.conditional test yes no) (Fold.fail (.testNotBool a.type?))
  | call {func : Func} {args : List Expr} {vs : List Value} {err : Error} :
    func.isFoldable = true → foldAll args = .ok vs → Fold.call func vs = .error err →
    Raises (.call func args) err

/-- Whether an expression is the conversion of a text to an identifier, and fails with what is wrong
with the text. -/
def Expr.Misreads (x : Expr) (err : Error) : Prop :=
  ∃ e implicit s fault, x = .cast e .guid implicit ∧ e.fold = .ok (.text s) ∧
    Guid.read (Value.trimmed s) = .error fault ∧ err = { cause := .guid fault }

section Origin

variable {e : Expr} {err : Error}

/-- What only a server can evaluate does not fold. -/
lemma Expr.fold_serverSide (h : e.isServerSide = true) :
    e.fold = .error (Fold.fail (.notConstant e.describe)) := by
  cases e with
  | column ref | inSubquery x q | «exists» q condition => rw [fold]
  | call func args =>
    rw [isServerSide, Bool.not_eq_true'] at h
    rw [fold, h]
    rfl
  | _ => cases h

/-- Folding fails where one expression does, although its operands have values. -/
theorem Expr.exists_raises (h : e.fold = .error err) : ∃ x : Expr, x.Within e ∧ x.Raises err := by
  induction e using Expr.operand_induction generalizing err with
  | step e ih =>
    have hoperand : ∀ y ∈ e.operands, y.fold = .error err →
        ∃ x : Expr, x.Within e ∧ x.Raises err := by
      intro y hy hfail
      obtain ⟨x, hx, hraises⟩ := ih y hy hfail
      exact ⟨x, .operand hy hx, hraises⟩
    -- What only a server can evaluate fails at once.  Anything else fails as an operand that
    -- folding enters does, or in its own evaluation.
    cases hserver : e.isServerSide with
    | true =>
      rw [fold_serverSide hserver] at h
      cases h
      exact ⟨e, .self, .serverSide hserver⟩
    | false =>
      cases e with
      | value v =>
        rw [fold] at h
        cases h
      | column ref | inSubquery e q | «exists» q condition => cases hserver
      | unary op e =>
        rw [fold] at h
        obtain h | ⟨a, ha, h⟩ := error_of_bind h
        · exact hoperand e (by simp [operands]) h
        · exact ⟨_, .self, .unary ha h⟩
      | cast e ty implicit =>
        rw [fold] at h
        obtain h | ⟨a, ha, h⟩ := error_of_bind h
        · exact hoperand e (by simp [operands]) h
        · exact ⟨_, .self, .cast ha h⟩
      | inList e members =>
        rw [fold] at h
        obtain h | ⟨a, -, h⟩ := error_of_bind h
        · exact hoperand e (by simp [operands]) h
        · cases h
      | binary op l r =>
        cases hl : l.fold with
        | error err' =>
          rw [fold, hl] at h
          cases h
          exact hoperand l (by simp [operands]) hl
        | ok a =>
          rw [fold_binary_eq hl] at h
          split at h
          · cases h
          · obtain h | ⟨b, hb, h⟩ := error_of_bind h
            · exact hoperand r (by simp [operands]) h
            · exact ⟨_, .self, .binary hl hb h⟩
      | conditional test yes no =>
        rw [fold] at h
        obtain h | ⟨a, ha, h⟩ := error_of_bind h
        · exact hoperand test (by simp [operands]) h
        · cases a with
          | bool b =>
            cases b with
            | true => exact hoperand yes (by simp [operands]) h
            | false => exact hoperand no (by simp [operands]) h
          | _ =>
            cases h
            exact ⟨_, .self, .test ha⟩
      | call func args =>
        rw [isServerSide, Bool.not_eq_false'] at hserver
        rw [fold, if_pos hserver] at h
        obtain h | ⟨vs, hvs, h⟩ := error_of_bind h
        · obtain ⟨y, hy, hfail⟩ := foldAll_error h
          exact hoperand y hy hfail
        · exact ⟨_, .self, .call hserver hvs h⟩

end Origin

namespace Fold

/-- Whether an evaluation only fails with errors that say that a constant has no value. -/
def Evaluates {α : Type} (x : Except Error α) : Prop :=
  ∀ err, x = .error err → err.isEvaluationFailed = true

section Rules

variable {α β : Type} {x y : Except Error α} {f : α → Except Error β}

/-- What does not fail has no wrong error. -/
lemma Evaluates.ok (a : α) : Evaluates (.ok a) := by
  intro err h
  cases h

/-- The faults of evaluation say that a constant has no value. -/
lemma Evaluates.fail (fault : EvaluationFault) :
    Evaluates (.error (fail fault) : Except Error α) := by
  intro err h
  cases h
  rfl

/-- One evaluation after another one says what either says. -/
lemma Evaluates.bind (hx : Evaluates x) (hf : ∀ a, Evaluates (f a)) : Evaluates (x >>= f) := by
  intro err h
  obtain h | ⟨a, -, h⟩ := error_of_bind h
  · exact hx err h
  · exact hf a err h

/-- A choice of two evaluations says what either says. -/
lemma Evaluates.ite {p : Prop} [Decidable p] (hx : Evaluates x) (hy : Evaluates y) :
    Evaluates (if p then x else y) := by
  split
  · exact hx
  · exact hy

end Rules

section Operations

variable (op : BinaryOp) (l r v : Value)

/-- A conversion to another class than that of identifiers says that it is not possible. -/
lemma cast_evaluates {ty : ColumnType} (h : ty ≠ .guid) : Evaluates (v.cast ty) := by
  unfold Value.cast
  refine .ite (.ok _) ?_
  cases ty with
  | guid => exact absurd rfl h
  | _ =>
    dsimp only
    split
    · exact .ok _
    · exact .fail _

/-- A number that is too large is said to have no value. -/
lemma exact_evaluates (n : Int) : Evaluates (exact n) := by
  unfold exact
  split
  · exact .ok _
  · exact .fail _

/-- An operator of one operand says that there is no value when it fails. -/
lemma unary_evaluates (op : UnaryOp) : Evaluates (unary op v) := by
  unfold unary
  split
  · exact .ok _
  · exact .ok _
  · exact exact_evaluates _
  · exact .ok _
  · exact .ok _
  · exact .fail _

/-- A comparison says that there is no value when it fails. -/
lemma comparison_evaluates : Evaluates (comparison op l r) := by
  unfold comparison
  split
  · exact .ok _
  · exact .ite (.ok _) (.ite (.ok _) (.ite (.ok _) (.fail _)))

/-- A connective says that there is no value when it fails. -/
lemma logical_evaluates : Evaluates (logical op l r) := by
  unfold logical
  split
  · exact .ok _
  · exact .fail _

/-- An operand of a concatenation is said to have no value when it is no text. -/
lemma concatText_evaluates : Evaluates (concatText v) := by
  have hcast : Evaluates (v.cast .text) := cast_evaluates v nofun
  refine hcast.bind fun w => ?_
  cases w with
  | _ => exact .ok _

/-- A concatenation says that there is no value when it fails. -/
lemma concat_evaluates : Evaluates (concat l r) :=
  (concatText_evaluates l).bind fun _ => (concatText_evaluates r).bind fun _ => .ok _

/-- Arithmetic on integers says that there is no value when it fails. -/
lemma intArithmetic_evaluates (a b : Int64) : Evaluates (intArithmetic op a b) := by
  cases op with
  | add | subtract | multiply => exact exact_evaluates _
  | divide => exact .ite (.fail _) (exact_evaluates _)
  | modulo => exact .ite (.fail _) ((exact_evaluates _).bind fun _ => exact_evaluates _)
  | _ => exact .fail _

/-- Arithmetic says that there is no value when it fails. -/
lemma arithmetic_evaluates : Evaluates (arithmetic op l r) := by
  unfold arithmetic
  split
  · exact .ok _
  · exact .ok _
  · exact intArithmetic_evaluates op _ _
  · split
    · exact .ok _
    · exact .fail _

/-- A bitwise operator says that there is no value when it fails. -/
lemma bitwise_evaluates : Evaluates (bitwise op l r) := by
  unfold bitwise
  split
  · exact .ok _
  · exact .ok _
  · exact .ok _
  · exact .ok _
  · exact .fail _

/-- An operator of two operands says that there is no value when it fails. -/
theorem binary_evaluates : Evaluates (binary op l r) := by
  unfold binary
  exact .ite (.ok _) <| .ite (logical_evaluates op l r) <| .ite (comparison_evaluates op l r) <|
    .ite (concat_evaluates l r) <| .ite (arithmetic_evaluates op l r) (bitwise_evaluates op l r)

/-- A function says that there is no value when it fails. -/
lemma call_evaluates (func : Func) (args : List Value) : Evaluates (call func args) := by
  unfold call
  refine .ite (concat_evaluates _ _) ?_
  split
  · exact .ok _
  · exact .ok _
  · exact .fail _

end Operations

end Fold

section Recognition

variable {e x : Expr} {v : Value} {ty : ColumnType} {err : Error}

/-- A conversion fails without saying that a constant has no value just if a text is converted to
an identifier, and then with what is wrong with the text. -/
lemma Value.cast_failure (h : v.cast ty = .error err) :
    err.isEvaluationFailed = true ∧ (ty = .guid → v.text? = none) ∨
      ∃ s fault, v = .text s ∧ ty = .guid ∧ Guid.read (trimmed s) = .error fault ∧
        err = { cause := .guid fault } := by
  by_cases hguid : ty = .guid
  case neg => exact .inl ⟨Fold.cast_evaluates v hguid err h, fun hty => absurd hty hguid⟩
  case pos =>
    subst hguid
    cases v with
    | text s =>
      cases hread : Guid.read (trimmed s) with
      | ok g =>
        simp only [cast, isNull, toGuid, Formats.standard_readGuid, hread] at h
        cases h
      | error fault =>
        simp only [cast, isNull, toGuid, Formats.standard_readGuid, hread] at h
        cases h
        exact .inr ⟨s, fault, rfl, rfl, hread, rfl⟩
    | null => cases h
    | guid g => cases h
    | _ =>
      cases h
      exact .inl ⟨rfl, fun _ => rfl⟩

/-- A conversion that fails can be recognised unless it is that of a text to an identifier. -/
lemma Value.isEvaluationFailed_iff (h : v.cast ty = .error err) :
    err.isEvaluationFailed = true ↔ ¬ ∃ s, v = .text s ∧ ty = .guid := by
  obtain ⟨herr, hnone⟩ | ⟨s, fault, rfl, rfl, -, rfl⟩ := cast_failure h
  · refine iff_of_true herr ?_
    rintro ⟨s, rfl, rfl⟩
    cases hnone rfl
  · exact iff_of_false nofun (not_not_intro ⟨s, rfl, rfl⟩)

/-- An expression that fails itself says that a constant has no value, unless it is a text that is
no identifier. -/
lemma Expr.Raises.recognized (h : x.Raises err) :
    err.isEvaluationFailed = true ∨ x.Misreads err := by
  cases h with
  | serverSide => exact .inl rfl
  | unary _ h => exact .inl (Fold.unary_evaluates _ _ err h)
  | binary _ _ h => exact .inl (Fold.binary_evaluates _ _ _ err h)
  | test => exact .inl rfl
  | call _ _ h => exact .inl (Fold.call_evaluates _ _ err h)
  | cast ha h =>
    obtain ⟨herr, -⟩ | ⟨s, fault, rfl, rfl, hread, rfl⟩ := Value.cast_failure h
    · exact .inl herr
    · exact .inr ⟨_, _, s, fault, rfl, ha, hread, rfl⟩

/-- What is wrong with an identifier does not say that a constant has no value. -/
lemma Expr.Misreads.isEvaluationFailed (h : x.Misreads err) : err.isEvaluationFailed = false := by
  obtain ⟨-, -, -, -, -, -, -, rfl⟩ := h
  rfl

/-- Folding says that a constant has no value just if it does not fail at a text that is no
identifier. -/
lemma Expr.isEvaluationFailed_iff (h : e.fold = .error err) :
    err.isEvaluationFailed = true ↔ ¬ ∃ x : Expr, x.Within e ∧ x.Misreads err := by
  constructor
  · rintro herr ⟨x, -, hmisreads⟩
    rw [hmisreads.isEvaluationFailed] at herr
    cases herr
  · intro hnone
    obtain ⟨x, hx, hraises⟩ := exists_raises h
    obtain herr | hmisreads := hraises.recognized
    · exact herr
    · exact absurd ⟨x, hx, hmisreads⟩ hnone

/-- The count of a limit fails as the folding of its expression does, or because the value is no
count. -/
lemma countOf_failure {method : String} (hconst : e.isConst = true)
    (h : countOf method e = .error err) :
    e.fold = .error err ∨ ∃ fault, err = .invalidArgument fault := by
  unfold countOf at h
  rw [hconst] at h
  obtain h | ⟨a, -, h⟩ := error_of_bind (x := e.fold) h
  · exact .inl h
  · split at h
    · split at h
      · cases h
      · cases h
        exact .inr ⟨_, rfl⟩
    · cases h
      exact .inr ⟨_, rfl⟩

/-- The count of a limit fails as the folding of its expression does. -/
lemma countOf_of_fold {method : String} (hconst : e.isConst = true) (h : e.fold = .error err) :
    countOf method e = .error err := by
  unfold countOf
  rw [hconst, h]
  rfl

/-- The failures of folding a count are told from the other errors about it by what they say. -/
lemma Expr.fold_eq_error_iff {method : String} (hconst : e.isConst = true) :
    e.fold = .error err ↔ countOf method e = .error err ∧
      (err.isEvaluationFailed = true ∨ ∃ x : Expr, x.Within e ∧ x.Misreads err) := by
  constructor
  case mp =>
    intro h
    refine ⟨countOf_of_fold hconst h, ?_⟩
    by_cases hmisreads : ∃ x : Expr, x.Within e ∧ x.Misreads err
    · exact .inr hmisreads
    · exact .inl ((isEvaluationFailed_iff h).mpr hmisreads)
  case mpr =>
    rintro ⟨h, hkind⟩
    obtain h | ⟨fault, rfl⟩ := countOf_failure hconst h
    · exact h
    · obtain herr | ⟨x, -, hmisreads⟩ := hkind
      · cases herr
      · obtain ⟨_, _, _, fault, -, -, -, herr⟩ := hmisreads
        cases herr

end Recognition

/-- The failures of folding can be recognised, unless a text that is no identifier is converted to
one.  If an expression does not fold, then the error says that a constant has no value, or else it
says what is wrong with such a text in the expression.  If a value cannot be converted, then the
error says so, or else the value is a text and the class is that of identifiers.  And of the errors
about the constant count of a limit, just those of these two kinds are failures of folding it. -/
theorem Expr.fold_failure_recognized (e : Expr) (err : Error) :
    (e.fold = .error err →
      (err.isEvaluationFailed = true ↔ ¬ ∃ x : Expr, x.Within e ∧ x.Misreads err)) ∧
    (∀ (v : Value) (ty : ColumnType), v.cast ty = .error err →
      (err.isEvaluationFailed = true ↔ ¬ ∃ s, v = .text s ∧ ty = .guid)) ∧
    ∀ method : String, e.isConst = true →
      (e.fold = .error err ↔ countOf method e = .error err ∧
        (err.isEvaluationFailed = true ∨ ∃ x : Expr, x.Within e ∧ x.Misreads err)) := by
  refine ⟨isEvaluationFailed_iff, ?conversions, ?counts⟩
  case conversions => exact fun v ty => Value.isEvaluationFailed_iff
  case counts => exact fun method => fold_eq_error_iff

/-- A quotient by zero beside a text that is no identifier. -/
def Expr.strayCount : Expr :=
  .conditional (.binary .equal (.value (.int 1)) (.value (.int 1)))
    (.binary .divide (.value (.int 6)) (.value (.int 0))) (.cast (.value (.text "six")) .guid false)

/-- The quotient is recognised as a failure of folding, also as the count of a limit, and so is a
truth value that is converted to an identifier. -/
theorem Expr.fold_failure_recognized_quotient :
    (¬ ∃ x : Expr, x.Within strayCount ∧ x.Misreads (Fold.fail .divisionByZero)) ∧
      countOf "Take" strayCount = .error (Fold.fail .divisionByZero) ∧
      ∃ err, (Value.bool true).cast .guid = .error err ∧ err.isEvaluationFailed = true := by
  obtain ⟨hfold, -, hcount⟩ := fold_failure_recognized strayCount (Fold.fail .divisionByZero)
  have hquotient : strayCount.fold = .error (Fold.fail .divisionByZero) := rfl
  have htruth : (Value.bool true).cast .guid =
      .error ((Value.bool true).noConversion .guid) := rfl
  obtain ⟨-, hcast, -⟩ :=
    fold_failure_recognized strayCount ((Value.bool true).noConversion .guid)
  refine ⟨(hfold hquotient).mp rfl, ((hcount "Take" rfl).mp hquotient).1, _, htruth,
    (hcast _ _ htruth).mpr ?_⟩
  rintro ⟨s, hs, -⟩
  cases hs

/-- A text that is no identifier fails to fold as one, and the error does not say that a constant
has no value. -/
theorem Expr.misread_identifier_unrecognized :
    ¬ ∀ (e : Expr) (err : Error), e.fold = .error err → err.isEvaluationFailed = true := by
  intro hclaim
  have hfold : (cast (.value (.text "not-a-guid")) .guid false).fold =
      .error { cause := .guid (.character 'n' 0) } := by rfl
  have herr := hclaim _ _ hfold
  cases herr

end TableQuery
