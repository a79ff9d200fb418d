import Mathlib.Tactic.Lemma
import TableQuery.Sql.Emit

/-!
# Uniform families of steps

A family of steps is uniform (`Emit.Uniform`) if either all of them fail, with one error, or all
succeed.  What they succeed with is a family again, and may have a property.  There is one rule for
each way of building steps: as long as no decision between two steps depends on which of the family
is taken, uniform families stay uniform.
-/

namespace TableQuery.Sql.Emit

variable {W α β : Type} {P : (W → α) → Prop} {Q : (W → β) → Prop}

/-- Either all steps of a family fail with one error, or all succeed and their results have a
property. -/
def Uniform (x : W → Emit α) (P : (W → α) → Prop) : Prop :=
  (∃ e, ∀ w, (x w).result = .error e) ∨ ∃ a : W → α, (∀ w, (x w).result = .ok (a w)) ∧ P a

namespace Uniform

/-- Steps that only return. -/
lemma pure {a : W → α} (h : P a) : Uniform (fun w => (Pure.pure (a w) : Emit α)) P :=
  .inr ⟨a, fun _ => rfl, h⟩

/-- Steps that fail with one error. -/
lemma fail {e : Error} : Uniform (fun _ : W => (Emit.fail e : Emit α)) P := .inl ⟨e, fun _ => rfl⟩

/-- A property that follows from another one is had too. -/
lemma mono {R : (W → α) → Prop} {x : W → Emit α} (hx : Uniform x P) (h : ∀ a, P a → R a) :
    Uniform x R :=
  hx.imp_right fun ⟨a, ha, hp⟩ => ⟨a, ha, h a hp⟩

/-- Steps after others. -/
lemma bind {x : W → Emit α} {f : W → α → Emit β} (hx : Uniform x P)
    (hf : ∀ a, P a → Uniform (fun w => f w (a w)) Q) : Uniform (fun w => x w >>= f w) Q := by
  obtain ⟨e, he⟩ | ⟨a, ha, hp⟩ := hx
  · refine .inl ⟨e, fun w => ?_⟩
    simp only [Bind.bind, andThen, he w]
  · have hbind : ∀ w, (x w >>= f w).result = (f w (a w)).result := by
      intro w
      simp only [Bind.bind, andThen, ha w]
    obtain ⟨e, he⟩ | ⟨b, hb, hq⟩ := hf a hp
    · exact .inl ⟨e, fun w => (hbind w).trans (he w)⟩
    · exact .inr ⟨b, fun w => (hbind w).trans (hb w), hq⟩

/-- A step that is the same in the whole family and binds nothing. -/
lemma lift {r : Except Error α} (h : ∀ a, r = .ok a → P fun _ => a) :
    Uniform (fun _ => Emit.lift r) P := by
  cases r with
  | error e => exact .inl ⟨e, fun _ => rfl⟩
  | ok a => exact .inr ⟨fun _ => a, fun _ => rfl, h a rfl⟩

/-- Steps after one that is the same in the whole family and binds nothing. -/
lemma lift_bind {r : Except Error α} {f : W → α → Emit β}
    (hf : ∀ a, r = .ok a → Uniform (fun w => f w a) Q) :
    Uniform (fun w => Emit.lift r >>= f w) Q := by
  have hr : Uniform (fun _ : W => Emit.lift r) fun a => ∃ b, r = .ok b ∧ a = fun _ => b :=
    lift fun b hb => ⟨b, hb, rfl⟩
  refine hr.bind ?_
  rintro _ ⟨b, hb, rfl⟩
  exact hf b hb

/-- A choice that does not vary. -/
lemma ite {p : Prop} [Decidable p] {x y : W → Emit α} (hx : Uniform x P) (hy : Uniform y P) :
    Uniform (fun w => if p then x w else y w) P := by
  split
  · exact hx
  · exact hy

/-- Steps that are the same as uniform ones. -/
lemma of_eq {x y : W → Emit α} (h : ∀ w, x w = y w) (hy : Uniform y P) : Uniform x P := by
  rw [funext h]
  exact hy

end Uniform

end TableQuery.Sql.Emit
