import TableQuery.Error
import TableQuery.Value

/-!
# Emission

A step of a compilation yields a result or an error, and in either case the values it has bound by
then, in order.  Steps are joined by appending what they bind; a step after a failed one binds
nothing.
-/

namespace TableQuery.Sql

/-- The outcome of a step, and the values bound until then. -/
structure Emit (α : Type) where
  bound : List Value
  result : Except Error α

namespace Emit

/-- A step that binds nothing and succeeds. -/
def done {α : Type} (a : α) : Emit α := ⟨[], .ok a⟩

/-- A step that binds nothing and fails. -/
def fail {α : Type} (e : Error) : Emit α := ⟨[], .error e⟩

/-- A step that binds nothing. -/
def lift {α : Type} (r : Except Error α) : Emit α := ⟨[], r⟩

/-- One step after another. -/
def andThen {α β : Type} (x : Emit α) (f : α → Emit β) : Emit β :=
  match x.result with
  | .ok a => ⟨x.bound ++ (f a).bound, (f a).result⟩
  | .error e => ⟨x.bound, .error e⟩

/-- Steps are taken one after another. -/
instance : Monad Emit where
  pure := done
  bind := andThen

end Emit

end TableQuery.Sql
