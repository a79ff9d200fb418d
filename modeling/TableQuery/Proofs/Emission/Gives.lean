import Mathlib.Tactic.Lemma
import TableQuery.Sql.Emit

/-!
# What steps give

A property of the result of a step and of the values that the step binds, for steps that succeed
(`Emit.Gives`).  There is one rule for each way of building a step.
-/

namespace TableQuery

/-- Of two steps that succeed together, each succeeds. -/
lemma ok_of_bind {α β ε : Type} {x : Except ε α} {f : α → Except ε β} {b : β}
    (h : (x >>= f) = .ok b) : ∃ a, x = .ok a ∧ f a = .ok b := by
  cases x with
  | error e => cases h
  | ok a => exact ⟨a, rfl, h⟩

/-- Of two steps that fail together, the first fails, or the second after it. -/
lemma error_of_bind {α β ε : Type} {x : Except ε α} {f : α → Except ε β} {err : ε}
    (h : (x >>= f) = .error err) : x = .error err ∨ ∃ a, x = .ok a ∧ f a = .error err := by
  cases x with
  | error err' =>
    cases h
    exact .inl rfl
  | ok a => exact .inr ⟨a, rfl, h⟩

namespace Sql.Emit

variable {α β : Type} {P : α → List Value → Prop} {Q : β → List Value → Prop}

/-- The result of one step after another is that of the second for the first one's. -/
lemma result_bind (x : Emit α) (f : α → Emit β) :
    (x >>= f).result = x.result >>= fun a => (f a).result := by
  cases hr : x.result <;> simp [Bind.bind, andThen, Except.bind, hr]

/-- After a step that succeeds, the result is that of the second step. -/
lemma result_bind_ok {x : Emit α} {f : α → Emit β} {a : α} (h : x.result = .ok a) :
    (x >>= f).result = (f a).result := by
  rw [result_bind, h]
  rfl

/-- A step succeeds. -/
def Succeeds (x : Emit α) : Prop := ∃ a, x.result = .ok a

/-- If the step succeeds, its result and the values it binds have a property. -/
def Gives (x : Emit α) (P : α → List Value → Prop) : Prop := ∀ a, x.result = .ok a → P a x.bound

/-- A step that only returns binds nothing. -/
lemma Gives.pure {a : α} (h : P a []) : (Pure.pure a : Emit α).Gives P := by
  intro b hb
  cases hb
  exact h

/-- A step that is done binds nothing. -/
lemma Gives.done {a : α} (h : P a []) : (done a).Gives P := Gives.pure h

/-- A step that fails gives nothing that could be wrong. -/
lemma Gives.fail {e : Error} : (fail e : Emit α).Gives P := by
  intro a h
  cases h

/-- One step after another binds what the first binds and then what the second binds. -/
lemma Gives.bind {x : Emit α} {f : α → Emit β} (hx : x.Gives P)
    (hf : ∀ a us, P a us → (f a).Gives fun b ws => Q b (us ++ ws)) : (x >>= f).Gives Q := by
  intro b hb
  cases hr : x.result with
  | error e =>
    have hbind : (x >>= f).result = .error e := by
      simp [Bind.bind, andThen, hr]
    rw [hbind] at hb
    cases hb
  | ok a =>
    have hbind : (x >>= f) = ⟨x.bound ++ (f a).bound, (f a).result⟩ := by
      simp [Bind.bind, andThen, hr]
    rw [hbind] at hb ⊢
    exact hf a x.bound (hx a hr) b hb

/-- A function of what a step gives. -/
lemma Gives.map {x : Emit α} {f : α → β} (hx : x.Gives P) (hf : ∀ a us, P a us → Q (f a) us) :
    (do return f (← x) : Emit β).Gives Q := by
  refine hx.bind fun a us ha => .pure ?_
  rw [List.append_nil]
  exact hf a us ha

/-- A function of what two steps give. -/
lemma Gives.map₂ {γ : Type} {R : γ → List Value → Prop} {x : Emit α} {y : Emit β}
    {f : α → β → γ} (hx : x.Gives P) (hy : y.Gives Q)
    (hf : ∀ a us b ws, P a us → Q b ws → R (f a b) (us ++ ws)) :
    (do let a ← x; return f a (← y) : Emit γ).Gives R :=
  hx.bind fun a us ha => hy.map fun b ws hb => hf a us b ws ha hb

/-- A step after one that binds nothing. -/
lemma Gives.lift_bind {r : Except Error α} {f : α → Emit β}
    (hf : ∀ a, r = .ok a → (f a).Gives Q) : (lift r >>= f).Gives Q := by
  have hr : (lift r).Gives fun a us => r = .ok a ∧ us = [] := fun a ha => ⟨ha, rfl⟩
  refine hr.bind ?_
  rintro a _ ⟨ha, rfl⟩
  exact hf a ha

end Sql.Emit

end TableQuery
