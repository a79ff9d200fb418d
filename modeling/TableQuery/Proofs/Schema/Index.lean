import Mathlib.Data.List.Nodup
import Mathlib.Data.List.Enum
import TableQuery.Proofs.Schema.Consistency

/-!
# The loop that builds a table

An index holds columns if they stand in it in their order, by their members, with the place of each
by its name and the place of the key (`Index.Holds`).  Adding a column keeps this, unless the column
breaks a rule given those before it, which then is the fault (`Index.add_outcome`); so the loop ends
with an index of all the columns, or with the first rule that one breaks (`Index.addAll_outcome`).
A table is therefore given by the list of its columns (`Table.of`), and holds them.
-/

namespace TableQuery

namespace OrderedMap

variable {κ α : Type} {m : OrderedMap κ α} {key : κ} {a : α} {i : Nat}

/-- A map is determined by its entries. -/
lemma eq_of_entries {m' : OrderedMap κ α} (h : m.entries = m'.entries) : m = m' := by
  cases m
  cases h
  rfl

variable [DecidableEq κ]

/-- A key is found where its entry stands. -/
lemma indexOf?_eq_some (h : m.getIndex? i = some (key, a)) : m.indexOf? key = some i := by
  obtain ⟨hi, he⟩ := List.getElem?_eq_some_iff.mp h
  rw [indexOf?, List.findIdx?_eq_some_iff_getElem]
  refine ⟨hi, by rw [he]; exact beq_self_eq_true key, fun j hji hj => ?_⟩
  have hi' : i < (m.entries.map Prod.fst).length := by
    rw [List.length_map]
    exact hi
  have hj' : j < (m.entries.map Prod.fst).length := Nat.lt_trans hji hi'
  have hkey : (m.entries.map Prod.fst)[j] = (m.entries.map Prod.fst)[i] := by
    rw [List.getElem_map, List.getElem_map, he]
    exact beq_iff_eq.mp hj
  have hplaces : j = i := (List.Nodup.getElem_inj_iff m.nodup).mp hkey
  exact Nat.ne_of_lt hji hplaces

/-- A key without an entry is not found. -/
lemma indexOf?_eq_none (h : key ∉ m.entries.map Prod.fst) : m.indexOf? key = none := by
  rw [indexOf?, List.findIdx?_eq_none_iff]
  intro e he
  rw [beq_eq_false_iff_ne]
  rintro rfl
  exact h (List.mem_map_of_mem he)

/-- A key is found with its value and the place of its entry. -/
lemma getFull?_eq_some (h : m.getIndex? i = some (key, a)) : m.getFull? key = some (i, a) := by
  rw [getFull?, indexOf?_eq_some h]
  show (m.getIndex? i >>= fun e => some (i, e.2)) = some (i, a)
  rw [h]
  rfl

/-- A key without an entry has no value. -/
lemma getFull?_eq_none (h : key ∉ m.entries.map Prod.fst) : m.getFull? key = none := by
  rw [getFull?, indexOf?_eq_none h]
  rfl

/-- An entry at a place is found under its key. -/
lemma get?_eq_some (h : m.getIndex? i = some (key, a)) : m.get? key = some a := by
  rw [get?, getFull?_eq_some h]
  rfl

/-- Nothing is found under a key that no entry has. -/
lemma get?_eq_none (h : key ∉ m.entries.map Prod.fst) : m.get? key = none := by
  rw [get?, getFull?_eq_none h]
  rfl

/-- Under a key without an entry, the new entry becomes the last, and nothing is given back. -/
lemma insert_of_notMem (h : key ∉ m.entries.map Prod.fst) :
    ∃ m', m.insert key a = (none, m') ∧ m'.entries = m.entries ++ [(key, a)] := by
  unfold insert
  split
  case h_1 old hold =>
    rw [get?_eq_none h] at hold
    cases hold
  case h_2 => exact ⟨_, rfl, rfl⟩

/-- Under a key that has an entry, the value of the entry is given back. -/
lemma insert_of_mem (h : key ∈ m.entries.map Prod.fst) :
    ∃ old m', (key, old) ∈ m.entries ∧ m.insert key a = (some old, m') := by
  obtain ⟨⟨key, old⟩, he, rfl⟩ := List.mem_map.mp h
  obtain ⟨i, hi, hat⟩ := List.getElem_of_mem he
  have hget : m.get? key = some old :=
    get?_eq_some (List.getElem?_eq_some_iff.mpr ⟨hi, hat⟩)
  unfold insert
  split
  case h_1 old' hold =>
    rw [hget] at hold
    cases hold
    exact ⟨old, _, he, rfl⟩
  case h_2 hnone =>
    rw [hget] at hnone
    cases hnone

end OrderedMap

namespace Schema

variable {table : String} {before cs : List Column} {c : Column} {fault : SchemaFault}

namespace Index

/-- Whether an index holds several columns, in their order and under their members, with the place
of each under its name and the place of the key. -/
structure Holds (ix : Index) (cs : List Column) : Prop where
  columns : ix.columns.entries = cs.map fun c => (c.member, c)
  byName : ix.byName.entries = cs.zipIdx.map fun c => (c.1.name, c.2)
  primaryKey : ix.primaryKey = cs.findIdx? (·.primaryKey)

variable {ix ix' : Index}

namespace Holds

/-- The index of no columns holds none. -/
lemma empty : Index.empty.Holds [] := ⟨rfl, rfl, rfl⟩

/-- An index is determined by the columns it holds. -/
lemma eq (h : ix.Holds cs) (h' : ix'.Holds cs) : ix = ix' := by
  have hcolumns := OrderedMap.eq_of_entries (h.columns.trans h'.columns.symm)
  have hnames := OrderedMap.eq_of_entries (h.byName.trans h'.byName.symm)
  have hkey := h.primaryKey.trans h'.primaryKey.symm
  cases ix
  cases hcolumns
  cases hnames
  cases hkey
  rfl

/-- The keys of the columns are their members. -/
lemma members (h : ix.Holds cs) : ix.columns.entries.map Prod.fst = cs.map Column.member := by
  rw [h.columns, List.map_map]
  rfl

/-- The keys of the places are the names of the columns. -/
lemma names (h : ix.Holds cs) : ix.byName.entries.map Prod.fst = cs.map Column.name := by
  rw [h.byName, List.map_map]
  show cs.zipIdx.map (Column.name ∘ Prod.fst) = cs.map Column.name
  rw [← List.map_map, List.zipIdx_map_fst]

/-- The values of the columns are the columns. -/
lemma values (h : ix.Holds cs) : ix.columns.values = cs := by
  rw [OrderedMap.values, h.columns, List.map_map]
  exact List.map_id cs

end Holds

/-- A second key is refused; a first one, or none, is what a search of the columns finds. -/
lemma key_outcome (h : ix.Holds before) :
    Index.key table ix.primaryKey before.length c =
      match c.primaryKey, before.findIdx? (·.primaryKey) with
      | true, some first => .error (.severalPrimaryKeys table first before.length)
      | _, _ => .ok ((before ++ [c]).findIdx? (·.primaryKey)) := by
  rw [h.primaryKey, List.findIdx?_append]
  cases hc : c.primaryKey <;> cases before.findIdx? (·.primaryKey) <;>
    simp [Index.key, hc, List.findIdx?_cons]

/-- Whether some column before has the same value of a field is whether theirs have the value. -/
lemma any_beq {field : Column → String} {s : String} :
    (before.any fun b => field b == s) = true ↔ s ∈ before.map field := by
  simp only [List.any_eq_true, beq_iff_eq, List.mem_map]

/-- A member is added just if no column before has it. -/
lemma addMember_outcome (h : ix.Holds before) {byName : OrderedMap String Nat}
    (hnames : byName.entries = ix.byName.entries ++ [(c.name, before.length)]) :
    match (if before.any (fun b => b.member == c.member) then
        some (SchemaFault.duplicateMember c.member table) else none) with
    | none =>
      ∃ ix', ix.addMember table byName ((before ++ [c]).findIdx? (·.primaryKey)) c = .ok ix' ∧
        ix'.Holds (before ++ [c])
    | some fault =>
      ix.addMember table byName ((before ++ [c]).findIdx? (·.primaryKey)) c = .error fault := by
  by_cases hmember : c.member ∈ before.map Column.member
  · obtain ⟨old, columns, hold, hinsert⟩ :=
      OrderedMap.insert_of_mem (a := c) (h.members.symm ▸ hmember)
    -- What is replaced was stored under its own member.
    have hsame : old.member = c.member := by
      rw [h.columns] at hold
      obtain ⟨b, -, heq⟩ := List.mem_map.mp hold
      obtain ⟨hkey, rfl⟩ := Prod.mk.inj heq
      exact hkey
    rw [if_pos (any_beq.mpr hmember), addMember, hinsert, ← hsame]
  · obtain ⟨columns, hinsert, hcolumns⟩ :=
      OrderedMap.insert_of_notMem (a := c) (h.members.symm ▸ hmember)
    rw [if_neg (mt any_beq.mp hmember), addMember, hinsert]
    refine ⟨_, rfl, ?_, ?_, rfl⟩
    · rw [hcolumns, h.columns, List.map_append]
      rfl
    · rw [hnames, h.byName, List.zipIdx_append, List.map_append, Nat.zero_add]
      rfl

/-- Adding a column gives an index that holds it after the others, unless the column breaks a rule
given those before it. -/
lemma add_outcome (table : String) (c : Column) (h : ix.Holds before) :
    match columnFault? table before c with
    | none => ∃ ix', ix.add table before.length c = .ok ix' ∧ ix'.Holds (before ++ [c])
    | some fault => ix.add table before.length c = .error fault := by
  unfold columnFault? Index.add
  by_cases hempty : c.name = "" ∨ c.member = ""
  · rw [if_pos hempty, if_pos hempty]
  rw [if_neg hempty, if_neg hempty]
  by_cases hname : c.name ∈ before.map Column.name
  · obtain ⟨old, byName, -, hinsert⟩ :=
      OrderedMap.insert_of_mem (a := before.length) (h.names.symm ▸ hname)
    rw [if_pos (any_beq.mpr hname), hinsert]
  obtain ⟨byName, hinsert, hnames⟩ :=
    OrderedMap.insert_of_notMem (a := before.length) (h.names.symm ▸ hname)
  rw [if_neg (mt any_beq.mp hname), hinsert, key_outcome h]
  cases c.primaryKey with
  | false => exact addMember_outcome h hnames
  | true =>
    cases before.findIdx? (·.primaryKey) with
    | none => exact addMember_outcome h hnames
    | some first => rfl

/-- The loop ends with an index of all the columns, or with the first rule that one of them breaks
given those before it. -/
lemma addAll_outcome (table : String) (cs : List Column) (h : ix.Holds before) :
    match firstFault? table before cs with
    | none => ∃ ix', ix.addAll table before.length cs = .ok ix' ∧ ix'.Holds (before ++ cs)
    | some fault => ix.addAll table before.length cs = .error fault := by
  induction cs generalizing ix before with
  | nil =>
    refine ⟨ix, rfl, ?_⟩
    rw [List.append_nil]
    exact h
  | cons c cs ih =>
    have hadd := add_outcome table c h
    rw [firstFault?, addAll]
    cases hfault : columnFault? table before c with
    | some fault =>
      rw [hfault] at hadd
      show ix.add table before.length c >>= _ = _
      rw [hadd]
      rfl
    | none =>
      rw [hfault] at hadd
      obtain ⟨ix', hix', hholds⟩ := hadd
      have hrest := ih hholds
      rw [List.length_append, List.append_assoc] at hrest
      rw [hix']
      exact hrest

/-- An index is built just if nothing is wrong with the description, and then holds its columns;
what is wrong with it otherwise is reported. -/
lemma build_outcome (table : String) (cs : List Column) :
    match fault? table cs with
    | none => ∃ ix, Index.build table cs = .ok ix ∧ ix.Holds cs
    | some fault => Index.build table cs = .error fault := by
  unfold fault? Index.build
  by_cases hname : table = ""
  · rw [if_pos hname, if_pos hname]
  · rw [if_neg hname, if_neg hname]
    exact addAll_outcome table cs .empty

/-- An index is built just for columns without a fault. -/
lemma build_eq_ok : Index.build table cs = .ok ix ↔ fault? table cs = none ∧ ix.Holds cs := by
  have hbuild := build_outcome table cs
  cases hfault : fault? table cs with
  | none =>
    rw [hfault] at hbuild
    obtain ⟨ix', hix', hholds⟩ := hbuild
    rw [hix']
    refine ⟨fun h => ⟨rfl, ?_⟩, fun h => congrArg Except.ok (hholds.eq h.2)⟩
    cases h
    exact hholds
  | some fault =>
    rw [hfault] at hbuild
    rw [hbuild]
    exact iff_of_false nofun nofun

/-- No index is built just for the first fault of the columns. -/
lemma build_eq_error : Index.build table cs = .error fault ↔ fault? table cs = some fault := by
  have hbuild := build_outcome table cs
  cases hfault : fault? table cs with
  | none =>
    rw [hfault] at hbuild
    obtain ⟨ix, hix, -⟩ := hbuild
    rw [hix]
    exact iff_of_false nofun nofun
  | some found =>
    rw [hfault] at hbuild
    rw [hbuild]
    exact ⟨fun h => by cases h; rfl, fun h => by cases h; rfl⟩

/-- The index that holds several columns with different names and members. -/
def listing (cs : List Column) (names : (cs.map Column.name).Nodup)
    (members : (cs.map Column.member).Nodup) : Index where
  columns := ⟨cs.map fun c => (c.member, c), by
    rw [List.map_map]
    exact members⟩
  byName := ⟨cs.zipIdx.map fun c => (c.1.name, c.2), by
    rw [List.map_map]
    show (cs.zipIdx.map (Column.name ∘ Prod.fst)).Nodup
    rw [← List.map_map, List.zipIdx_map_fst]
    exact names⟩
  primaryKey := cs.findIdx? (·.primaryKey)

/-- The index of a list of columns holds them. -/
lemma listing_holds {names : (cs.map Column.name).Nodup} {members : (cs.map Column.member).Nodup} :
    (listing cs names members).Holds cs :=
  ⟨rfl, rfl, rfl⟩

end Index

end Schema

namespace Table

variable {t : Table} {name : String} {cs : List Column} {err : Error}

/-- The table with the given name and columns. -/
def of (name : String) (cs : List Column) (h : Schema.fault? name cs = none) : Table where
  name := name
  index := .listing cs (Schema.consistent_iff.mp h).names (Schema.consistent_iff.mp h).members
  built := ⟨cs, Schema.Index.build_eq_ok.mpr ⟨h, Schema.Index.listing_holds⟩⟩

/-- The index of a table holds its columns. -/
lemma holds (t : Table) : t.index.Holds t.columns := by
  obtain ⟨cs, hbuilt⟩ := t.built
  obtain ⟨-, hholds⟩ := Schema.Index.build_eq_ok.mp hbuilt
  rw [columns, hholds.values]
  exact hholds

/-- Nothing is wrong with the description of a table. -/
lemma fault?_eq_none (t : Table) : Schema.fault? t.name t.columns = none := by
  obtain ⟨cs, hbuilt⟩ := t.built
  obtain ⟨hfault, hholds⟩ := Schema.Index.build_eq_ok.mp hbuilt
  rw [columns, hholds.values]
  exact hfault

/-- The description of a table is consistent. -/
lemma consistency (t : Table) : Schema.Consistent t.name t.columns :=
  Schema.consistent_iff.mp t.fault?_eq_none

/-- A column is found where it stands in the declaration. -/
lemma column?_eq (t : Table) (i : Nat) : t.column? i = t.columns[i]? := by
  rw [column?, columns, OrderedMap.getIndex?, OrderedMap.values, List.getElem?_map]

/-- A column that is found is one of the columns. -/
lemma mem_columns {i : Nat} {c : Column} (h : t.column? i = some c) : c ∈ t.columns := by
  rw [column?_eq] at h
  exact List.mem_of_getElem? h

/-- A table is built just if its description is consistent. -/
lemma build_succeeds : (∃ t, Table.build name cs = .ok t) ↔ Schema.fault? name cs = none := by
  unfold build
  split
  case h_1 index h => exact iff_of_true ⟨_, rfl⟩ (Schema.Index.build_eq_ok.mp h).1
  case h_2 fault h =>
    refine iff_of_false nofun fun hnone => ?_
    rw [Schema.Index.build_eq_error.mp h] at hnone
    cases hnone

/-- What is built has the given name. -/
lemma name_of_build (h : Table.build name cs = .ok t) : t.name = name := by
  unfold build at h
  split at h
  · cases h
    rfl
  · cases h

/-- What is built has the given columns. -/
lemma columns_of_build (h : Table.build name cs = .ok t) : t.columns = cs := by
  unfold build at h
  split at h
  case h_1 index hindex =>
    cases h
    exact (Schema.Index.build_eq_ok.mp hindex).2.values
  case h_2 => cases h

/-- What is not built has something wrong with its description. -/
lemma error_of_build (h : Table.build name cs = .error err) :
    ∃ fault, Schema.fault? name cs = some fault ∧ err = .invalidSchema fault := by
  unfold build at h
  split at h
  case h_1 => cases h
  case h_2 fault hfault =>
    cases h
    exact ⟨fault, Schema.Index.build_eq_error.mp hfault, rfl⟩

end Table

end TableQuery
