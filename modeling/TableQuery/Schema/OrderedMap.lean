/-!
# Maps in the order of insertion

The entries of an ordered map stand in the order in which their keys were first inserted.  No two
entries have the same key, so an entry is found by its key and by its place.  Inserting under a key
that has an entry replaces the value, in the same place, and gives the old one back.
-/

namespace TableQuery

/-- A map whose entries stand in the order in which their keys were first inserted. -/
structure OrderedMap (κ α : Type) where
  entries : List (κ × α)
  nodup : (entries.map Prod.fst).Nodup
  deriving DecidableEq

namespace OrderedMap

variable {κ α : Type}

/-- The map without entries. -/
def empty : OrderedMap κ α := ⟨[], .nil⟩

/-- The values, in the order of their entries. -/
def values (m : OrderedMap κ α) : List α := m.entries.map Prod.snd

/-- The entry at a place. -/
def getIndex? (m : OrderedMap κ α) (place : Nat) : Option (κ × α) := m.entries[place]?

variable [DecidableEq κ]

/-- The place of the entry of a key. -/
def indexOf? (m : OrderedMap κ α) (key : κ) : Option Nat := m.entries.findIdx? (fun e => e.1 == key)

/-- The value of a key, with the place of its entry. -/
def getFull? (m : OrderedMap κ α) (key : κ) : Option (Nat × α) := do
  let place ← m.indexOf? key
  let (_, a) ← m.getIndex? place
  return (place, a)

/-- The value of a key. -/
def get? (m : OrderedMap κ α) (key : κ) : Option α := (m.getFull? key).map Prod.snd

/-- The entries with the value of a key replaced. -/
def replaced (entries : List (κ × α)) (key : κ) (a : α) : List (κ × α) :=
  entries.map fun e => if e.1 = key then (e.1, a) else e

/-- A replacement keeps the keys. -/
theorem replaced_keys (entries : List (κ × α)) (key : κ) (a : α) :
    (replaced entries key a).map Prod.fst = entries.map Prod.fst := by
  rw [replaced, List.map_map]
  apply List.map_congr_left
  intro e _
  show (if e.1 = key then (e.1, a) else e).1 = e.1
  split <;> rfl

/-- A key that is not found is the key of no entry. -/
theorem notMem_of_get? {m : OrderedMap κ α} {key : κ} (h : m.get? key = none) :
    key ∉ m.entries.map Prod.fst := by
  intro hmem
  obtain ⟨e, he, rfl⟩ := List.mem_map.mp hmem
  have hsome : (m.indexOf? e.1).isSome = true := by
    rw [indexOf?, List.findIdx?_isSome]
    exact List.any_eq_true.mpr ⟨e, he, beq_self_eq_true e.1⟩
  obtain ⟨place, hplace⟩ := Option.isSome_iff_exists.mp hsome
  obtain ⟨hlt, -⟩ := List.findIdx?_eq_some_iff_getElem.mp hplace
  simp [get?, getFull?, hplace, getIndex?, List.getElem?_eq_getElem hlt] at h

/-- The keys stay distinct when an entry with a new key is added. -/
theorem nodup_append {m : OrderedMap κ α} {key : κ} (a : α) (h : m.get? key = none) :
    ((m.entries ++ [(key, a)]).map Prod.fst).Nodup := by
  rw [List.map_append, List.nodup_append]
  refine ⟨m.nodup, List.pairwise_singleton _ key, fun k hk k' hk' heq => ?_⟩
  have hkey : k = key := heq.trans (List.mem_singleton.mp hk')
  exact notMem_of_get? h (hkey ▸ hk)

/-- Inserts a value under a key, and gives back the one that it replaces. -/
def insert (m : OrderedMap κ α) (key : κ) (a : α) : Option α × OrderedMap κ α :=
  match h : m.get? key with
  | some old => (some old, ⟨replaced m.entries key a, replaced_keys m.entries key a ▸ m.nodup⟩)
  | none => (none, ⟨m.entries ++ [(key, a)], nodup_append a h⟩)

end OrderedMap

end TableQuery
