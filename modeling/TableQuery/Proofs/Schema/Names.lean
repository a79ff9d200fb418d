import TableQuery.Proofs.Schema.Index

/-!
# Column names

The columns of a table have different names and members, since its description is consistent
(`Table.consistency`), so that a column is found by its name (`Table.columnByName?_name`) and by its
member (`Table.columnByMember?_member`), and nothing else is.
-/

namespace TableQuery.Table

variable {t : Table} {i : Nat} {c : Column} {s : String}

/-- The columns of a table have different names. -/
theorem nodup_names (t : Table) : (t.columns.map Column.name).Nodup := t.consistency.names

/-- The entry of a column is under its member. -/
lemma getIndex?_member (h : t.column? i = some c) :
    t.index.columns.getIndex? i = some (c.member, c) := by
  rw [column?_eq] at h
  rw [OrderedMap.getIndex?, t.holds.columns, List.getElem?_map, h]
  rfl

/-- The entry of a place is under the name of the column there. -/
lemma getIndex?_name (h : t.column? i = some c) :
    t.index.byName.getIndex? i = some (c.name, i) := by
  rw [column?_eq] at h
  rw [OrderedMap.getIndex?, t.holds.byName, List.getElem?_map, List.getElem?_zipIdx, h]
  simp

/-- A column is found by its name. -/
theorem columnByName?_name (h : t.column? i = some c) : t.columnByName? c.name = some (i, c) := by
  rw [columnByName?, OrderedMap.get?_eq_some (getIndex?_name h)]
  show (t.column? i >>= fun b => some (i, b)) = some (i, c)
  rw [h]
  rfl

/-- A column is found by its member. -/
theorem columnByMember?_member (h : t.column? i = some c) :
    t.columnByMember? c.member = some (i, c) :=
  OrderedMap.getFull?_eq_some (getIndex?_member h)

/-- A name that no column has is not found. -/
lemma columnByName?_eq_none (h : s ∉ t.columns.map Column.name) : t.columnByName? s = none := by
  rw [← t.holds.names] at h
  rw [columnByName?, OrderedMap.get?_eq_none h]
  rfl

/-- A member that no column has is not found. -/
lemma columnByMember?_eq_none (h : s ∉ t.columns.map Column.member) :
    t.columnByMember? s = none := by
  rw [← t.holds.members] at h
  exact OrderedMap.getFull?_eq_none h

/-- The primary key of a table is one of its columns. -/
lemma column_of_primaryKeyIndex? (h : t.primaryKeyIndex? = some i) :
    (t.column? i).isSome = true := by
  rw [primaryKeyIndex?, t.holds.primaryKey] at h
  obtain ⟨hi, -⟩ := List.findIdx?_eq_some_iff_getElem.mp h
  rw [column?_eq, List.getElem?_eq_getElem hi]
  rfl

end TableQuery.Table
