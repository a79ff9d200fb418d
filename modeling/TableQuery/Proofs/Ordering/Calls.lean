import Mathlib.Tactic.Tauto
import TableQuery.Proofs.Emission.Needs
import TableQuery.Proofs.Ordering.Rules

/-!
# Statements inside calls

A step allows a fact (`Emit.Allows`) if in what it gives all statements inside may stand there just
if the fact holds.  A call allows what its arguments allow together, however often each is written
(`Call.scalar_allows`, `Call.condition_allows`); only the test for the empty text at the end leaves
its arguments out.
-/

namespace TableQuery.Sql

/-- Whether all of some statements may stand inside another. -/
def AllLawful (ss : List Select) : Prop := ∀ s ∈ ss, s.Lawful

/-- No statements are lawful. -/
@[simp] lemma allLawful_nil : AllLawful [] := nofun

/-- Statements of two lists are lawful if those of each list are. -/
@[simp] lemma allLawful_append {ss ts : List Select} :
    AllLawful (ss ++ ts) ↔ AllLawful ss ∧ AllLawful ts := List.forall_mem_append

/-- Statements are lawful if the first one and the others are. -/
@[simp] lemma allLawful_cons {s : Select} {ss : List Select} :
    AllLawful (s :: ss) ↔ s.Lawful ∧ AllLawful ss := List.forall_mem_cons

attribute [simp] Scalar.nested scalarsNested Cond.nested condsNested Source.nested

namespace Emit

variable {α β γ : Type} {x : Emit α} {y : Emit β} {P Q : Prop} {inX : α → List Select}
  {inY : β → List Select} {inZ : γ → List Select}

/-- In what a step gives, all statements inside may stand there just if a fact holds. -/
def Allows (inX : α → List Select) (x : Emit α) (P : Prop) : Prop :=
  x.Gives fun a _ => AllLawful (inX a) ↔ P

namespace Allows

/-- The same condition in other words. -/
lemma congr (hx : x.Allows inX P) (h : P ↔ Q) : x.Allows inX Q := fun a ha => (hx a ha).trans h

/-- A step that only returns. -/
lemma pure {a : α} (h : AllLawful (inX a) ↔ P) : (Pure.pure a : Emit α).Allows inX P := Gives.pure h

/-- A step that fails. -/
lemma fail {e : Error} : (Emit.fail e : Emit α).Allows inX P := Gives.fail

/-- One step after another, whose result says the same as both. -/
lemma bind {f : α → Emit β} (hx : x.Allows inX P)
    (hf : ∀ a, (AllLawful (inX a) ↔ P) → (f a).Allows inY Q) : (x >>= f).Allows inY Q :=
  Gives.bind hx fun a _ h => hf a h

/-- A step after one without statements. -/
lemma lift_bind {r : Except Error α} {f : α → Emit β} (hf : ∀ a, r = .ok a → (f a).Allows inY Q) :
    (lift r >>= f).Allows inY Q :=
  Gives.lift_bind hf

/-- A function of a result, with the statements of the result. -/
lemma map {f : α → β} (hx : x.Allows inX P)
    (hf : ∀ a, AllLawful (inY (f a)) ↔ AllLawful (inX a)) : (do return f (← x)).Allows inY P :=
  hx.bind fun a ha => .pure ((hf a).trans ha)

/-- A function of two results, with the statements of both. -/
lemma map₂ {f : α → β → γ} (hx : x.Allows inX P) (hy : y.Allows inY Q)
    (hf : ∀ a b, AllLawful (inZ (f a b)) ↔ AllLawful (inX a) ∧ AllLawful (inY b)) :
    (do let a ← x; return f a (← y)).Allows inZ (P ∧ Q) :=
  hx.bind fun a ha => hy.bind fun b hb => .pure ((hf a b).trans (and_congr ha hb))

end Allows

end Emit

open Emit (Allows)

/-- A literal has no statements in it. -/
lemma literal_allows (v : Value) : (literal v).Allows Scalar.nested True := by
  intro x hx
  unfold literal at hx
  split at hx
  · cases hx
    exact iff_of_true allLawful_nil trivial
  · cases hx
    exact iff_of_true allLawful_nil trivial

namespace Call

variable {d : Dialect} {func : Func} {P Q : Prop} {x y : Emit Scalar}

section Dialects

/-- The test that a text contains another. -/
lemma contains_allows (hx : x.Allows Scalar.nested P) (hy : y.Allows Scalar.nested Q) :
    (contains d x y).Allows Cond.nested (P ∧ Q) := by
  unfold contains
  split
  · exact (hy.map₂ hx fun _ _ => by simp [compared]).congr and_comm
  · exact hx.map₂ hy fun _ _ => by simp [compared]

/-- The place of a text in another. -/
lemma indexOf_allows (hx : x.Allows Scalar.nested P) (hy : y.Allows Scalar.nested Q) :
    (indexOf d x y).Allows Scalar.nested (P ∧ Q) := by
  unfold indexOf
  split
  · exact (hy.map₂ hx fun _ _ => by simp [grouped]).congr and_comm
  · exact hx.map₂ hy fun _ _ => by simp [grouped]

/-- A number rounded up or down. -/
lemma roundToward_allows {up : Bool} (hx : x.Allows Scalar.nested P) :
    (roundToward d up x).Allows Scalar.nested P := by
  unfold roundToward
  cases d with
  | sqlite =>
    have hwhole : Allows Scalar.nested (do return Scalar.cast (← x) .integer) P :=
      hx.map fun _ => by simp
    refine hx.bind fun a ha => hwhole.bind fun b hb => ?_
    refine hwhole.bind fun c hc => hwhole.bind fun e he => .pure ?_
    simp [chosen, ha, hb, hc, he]
  | _ => exact hx.map fun _ => by simp

/-- The larger or the smaller of two numbers. -/
lemma extremum_allows {larger : Bool} (hx : x.Allows Scalar.nested P)
    (hy : y.Allows Scalar.nested Q) : (extremum d larger x y).Allows Scalar.nested (P ∧ Q) := by
  unfold extremum
  split
  · refine hx.bind fun a ha => hy.bind fun b hb => hx.bind fun a' ha' => ?_
    refine hy.bind fun b' hb' => .pure ?_
    simp only [chosen, Scalar.nested, Cond.nested, allLawful_append, ha, hb, ha', hb']
    exact and_self_iff
  · exact hx.map₂ hy fun _ _ => by simp

/-- A part of a date. -/
lemma datePart_allows {f : DateField} (hx : x.Allows Scalar.nested P) :
    (datePart d f x).Allows Scalar.nested P := by
  unfold datePart
  cases d with
  | postgreSql => cases f <;> exact hx.map fun _ => by simp
  | _ => exact hx.map fun _ => by simp

/-- A date some time later. -/
lemma dateAdd_allows {f : DateField} (hx : x.Allows Scalar.nested P)
    (hy : y.Allows Scalar.nested Q) : (dateAdd d f x y).Allows Scalar.nested (P ∧ Q) := by
  unfold dateAdd
  cases d with
  | sqlServer => exact (hy.map₂ hx fun _ _ => by simp).congr and_comm
  | _ => exact hx.map₂ hy fun _ _ => by simp [grouped]

/-- A date without the time of day. -/
lemma dayOf_allows (hx : x.Allows Scalar.nested P) : (dayOf d x).Allows Scalar.nested P := by
  unfold dayOf
  cases d with
  | _ => exact hx.map fun _ => by simp

/-- The day of the week of a date. -/
lemma dayOfWeek_allows (hx : x.Allows Scalar.nested P) :
    (dayOfWeek d x).Allows Scalar.nested P := by
  unfold dayOfWeek
  cases d with
  | _ => exact hx.map fun _ => by simp [grouped]

/-- A conversion to a storage class. -/
lemma castTo_allows {ty : ColumnType} (hx : x.Allows Scalar.nested P) :
    (castTo d ty x).Allows Scalar.nested P := by
  unfold castTo
  split
  · exact hx.map fun _ => by simp
  · exact .fail

end Dialects

section Patterns

variable {text pattern : Argument}

/-- The test that a text begins with another. -/
lemma startsWith_allows (hx : text.scalar.Allows Scalar.nested P)
    (hp : pattern.scalar.Allows Scalar.nested Q) (hconst : pattern.expr.isConst = true → Q) :
    (startsWith func text pattern).Allows Cond.nested (P ∧ Q) := by
  unfold startsWith
  refine constantText?_ok.bind fun o _ ho => ?_
  cases o with
  | some s =>
    refine (hx.map₂ (literal_allows _) fun _ _ => by simp [compared]).congr ?_
    exact and_congr_right fun _ => iff_of_true trivial (hconst ho.1)
  | none =>
    refine hx.bind fun a ha => hp.bind fun b hb => hp.bind fun c hc => .pure ?_
    simp [compared, ha, hb, hc]

/-- The end of a text has the statements of its parts. -/
lemma nested_suffix (a b : Scalar) : (suffix a b).nested = a.nested ++ b.nested := by
  simp [suffix]

/-- The test that a text ends with another that is not empty. -/
lemma endsWith_allows (hx : text.scalar.Allows Scalar.nested P)
    (hp : pattern.scalar.Allows Scalar.nested Q) (hconst : pattern.expr.isConst = true → Q)
    (hempty : isEmptySuffix .endsWith [text.expr, pattern.expr] = false) :
    (endsWith d func text pattern).Allows Cond.nested (P ∧ Q) := by
  unfold endsWith
  refine constantText?_ok.bind fun o _ ho => ?_
  cases o with
  | some s =>
    have hs : s.isEmpty = false := by
      simpa only [isEmptySuffix, ho.1, ho.2, Bool.true_and] using hempty
    dsimp only
    rw [hs, if_neg Bool.false_ne_true]
    refine Allows.congr (P := P ∧ True) (hx.map₂ (literal_allows _) fun _ _ => ?_) ?_
    · cases d <;> simp [compared, nested_suffix]
    · exact and_congr_right fun _ => iff_of_true trivial (hconst ho.1)
  | none =>
    refine hx.bind fun a ha => hp.bind fun b hb => ?_
    cases d with
    | sqlite =>
      show Allows Cond.nested (do
        let c ← pattern.scalar
        let last := Scalar.call .substring [a, .negate (.call .length [b]), .call .length [c]]
        return compared .equal last (← pattern.scalar)) (P ∧ Q)
      refine hp.bind fun c hc => hp.bind fun e he => .pure ?_
      simp [compared, ha, hb, hc, he]
    | _ =>
      refine hp.bind fun c hc => .pure ?_
      simp [compared, nested_suffix, ha, hb, hc]

/-- To escape a pattern adds no statements to it. -/
lemma nested_escapedByServer (d : Dialect) (a : Scalar) :
    (escapedByServer d a).nested = a.nested := by
  unfold escapedByServer
  induction wildcards d generalizing a with
  | nil => rfl
  | cons c cs ih =>
    rw [List.foldl_cons, ih]
    simp

/-- The test that a text begins or ends with another, ignoring case. -/
lemma like_allows {atStart : Bool} (hx : text.scalar.Allows Scalar.nested P)
    (hp : pattern.scalar.Allows Scalar.nested Q) (hconst : pattern.expr.isConst = true → Q) :
    (like d func atStart text pattern).Allows Cond.nested (P ∧ Q) := by
  unfold like
  refine constantText?_ok.bind fun o _ ho => ?_
  cases o with
  | some s =>
    refine (hx.map₂ (literal_allows _) fun _ _ => by simp).congr ?_
    exact and_congr_right fun _ => iff_of_true trivial (hconst ho.1)
  | none =>
    cases atStart <;> exact hx.map₂ hp fun _ _ => by simp [nested_escapedByServer]

/-- A place counted from one. -/
lemma placeFromOne_allows (hp : pattern.scalar.Allows Scalar.nested Q)
    (hconst : pattern.expr.isConst = true → Q) :
    (placeFromOne pattern).Allows Scalar.nested Q := by
  unfold placeFromOne
  split
  case isTrue h =>
    refine .lift_bind fun v _ => ?_
    cases v with
    | int n =>
      dsimp only
      split
      · exact (literal_allows _).congr (iff_of_true trivial (hconst h))
      · exact .fail
    | _ => exact .fail
  case isFalse => exact hp.map fun _ => by simp [grouped]

/-- A part of a text, with or without a length. -/
lemma substring_allows {length : Option Argument} {R : Argument → Prop}
    (hx : text.scalar.Allows Scalar.nested P) (hp : pattern.scalar.Allows Scalar.nested Q)
    (hconst : pattern.expr.isConst = true → Q)
    (hn : ∀ n ∈ length, n.scalar.Allows Scalar.nested (R n)) :
    (substring d text pattern length).Allows Scalar.nested (P ∧ Q ∧ ∀ n ∈ length, R n) := by
  unfold substring
  refine hx.bind fun a ha => (placeFromOne_allows hp hconst).bind fun b hb => ?_
  cases length with
  | some n =>
    refine (hn n rfl).bind fun c hc => .pure ?_
    simp [ha, hb, hc]
  | none =>
    dsimp only
    split
    · refine hx.bind fun c hc => .pure ?_
      simp only [Scalar.nested, scalarsNested, List.append_nil, allLawful_append, ha, hb, hc]
      simp only [Option.not_mem_none, false_implies, implies_true, and_true]
      exact and_congr_right fun hP => and_iff_left hP
    · refine .pure ?_
      simp [ha, hb]

end Patterns

section Arguments

variable {args : List Argument} {R : Argument → Prop}

/-- A call of the routine that a function stands for. -/
lemma plain_allows {r : Routine} (h : ∀ a ∈ args, a.scalar.Allows Scalar.nested (R a)) :
    (plain r args).Allows Scalar.nested (∀ a ∈ args, R a) := by
  have hsequence : (plain.sequence args).Allows scalarsNested (∀ a ∈ args, R a) := by
    induction args with
    | nil => exact .pure (iff_of_true allLawful_nil (List.forall_mem_nil _))
    | cons a as ih =>
      obtain ⟨ha, has⟩ := List.forall_mem_cons.mp h
      rw [List.forall_mem_cons]
      exact ha.map₂ (ih has) fun _ _ => by simp
  exact hsequence.map fun _ => by simp

/-- To trim a text adds no statements to it. -/
lemma nested_trimmed (d : Dialect) (a : Scalar) : (trimmed d a).nested = a.nested := by
  cases d <;> simp [trimmed, Dialect.isSqlServer]

/-- The condition that a call of a test becomes allows what its arguments allow, unless it tests for
the empty text at the end. -/
theorem condition_allows (h : ∀ a ∈ args, a.scalar.Allows Scalar.nested (R a))
    (hconst : ∀ a ∈ args, a.expr.isConst = true → R a)
    (hempty : isEmptySuffix func (args.map Argument.expr) = false) :
    (condition d func args).Allows Cond.nested (∀ a ∈ args, R a) := by
  have hshape := condition_shape d func args
  generalize condition d func args = c at hshape ⊢
  cases hshape with
  | contains x needle =>
    rw [forall_mem_pair] at h ⊢
    exact contains_allows h.1 h.2
  | startsWith x pattern =>
    rw [forall_mem_pair] at h hconst ⊢
    exact startsWith_allows h.1 h.2 hconst.2
  | endsWith x pattern =>
    rw [forall_mem_pair] at h hconst ⊢
    exact endsWith_allows h.1 h.2 hconst.2 hempty
  | like atStart x pattern =>
    rw [forall_mem_pair] at h hconst ⊢
    exact like_allows h.1 h.2 hconst.2
  | nullOrEmpty x | nullOrBlank x =>
    rw [List.forall_mem_singleton] at h ⊢
    refine h.bind fun a ha => h.bind fun b hb => .pure ?_
    simp [nested_trimmed, ha, hb]
  | wrongArity => exact .fail

/-- The value that any other call becomes allows what its arguments allow. -/
theorem scalar_allows (h : ∀ a ∈ args, a.scalar.Allows Scalar.nested (R a))
    (hconst : ∀ a ∈ args, a.expr.isConst = true → R a) :
    (scalar d func args).Allows Scalar.nested (∀ a ∈ args, R a) := by
  have hshape := scalar_shape d func args
  generalize scalar d func args = y at hshape ⊢
  -- By what is written for the call, since several functions are written alike.
  cases hshape with
  | plain r => exact plain_allows h
  | substring x start =>
    rw [forall_mem_pair] at h hconst ⊢
    have hsubstring : (substring d x start none).Allows Scalar.nested
        (R x ∧ R start ∧ ∀ n ∈ none, R n) :=
      substring_allows h.1 h.2 hconst.2 fun n hn => absurd hn (Option.not_mem_none n)
    exact hsubstring.congr (by simp)
  | substringLength x start length =>
    simp only [List.forall_mem_cons] at h hconst ⊢
    have hlength : ∀ n ∈ some length, n.scalar.Allows Scalar.nested (R n) := by
      intro n hn
      cases hn
      exact h.2.2.1
    exact (substring_allows h.1 h.2.1 hconst.2.1 hlength).congr (by simp)
  | indexOf x needle =>
    rw [forall_mem_pair] at h ⊢
    exact indexOf_allows h.1 h.2
  | concat x y =>
    rw [forall_mem_pair] at h ⊢
    exact h.1.map₂ h.2 fun _ _ => by simp
  | extremum larger x y =>
    rw [forall_mem_pair] at h ⊢
    exact extremum_allows h.1 h.2
  | dateAdd field x n =>
    rw [forall_mem_pair] at h ⊢
    exact dateAdd_allows h.1 h.2
  | trimmed x =>
    rw [List.forall_mem_singleton] at h ⊢
    exact h.map fun _ => by rw [nested_trimmed]
  | round x =>
    rw [List.forall_mem_singleton] at h ⊢
    exact h.map fun _ => by split <;> simp
  | roundToward up x =>
    rw [List.forall_mem_singleton] at h ⊢
    exact roundToward_allows h
  | castTo ty x =>
    rw [List.forall_mem_singleton] at h ⊢
    exact castTo_allows h
  | datePart field x =>
    rw [List.forall_mem_singleton] at h ⊢
    exact datePart_allows h
  | dayOf x =>
    rw [List.forall_mem_singleton] at h ⊢
    exact dayOf_allows h
  | dayOfWeek x =>
    rw [List.forall_mem_singleton] at h ⊢
    exact dayOfWeek_allows h
  | localNow | universalNow =>
    refine .pure (iff_of_true ?_ (List.forall_mem_nil _))
    cases d <;> simp [localNow, universalNow]
  | wrongArity => exact .fail

end Arguments

end Call

end TableQuery.Sql
