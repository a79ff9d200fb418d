import TableQuery.Proofs.Schema.Names

/-!
# Building and looking up tables

A table is built just if its description is consistent, and then the maps filled by the loop agree:
the columns are found by their names, members and places, and the key by its mark.  Otherwise the
error is about the first column that breaks a rule given the columns before it
(`Table.build_indexes`).
-/

namespace TableQuery

/-- A rule that a column breaks, given the columns before it. -/
inductive Column.Breaks (table : String) (before : List Column) (c : Column) : SchemaFault → Prop
  | emptyName : c.name = "" ∨ c.member = "" →
    Breaks table before c (.emptyColumnName before.length table)
  | duplicateColumn {b : Column} : b ∈ before → b.name = c.name →
    Breaks table before c (.duplicateColumn c.name table)
  | severalPrimaryKeys {first : Nat} {b : Column} : before[first]? = some b →
    b.primaryKey = true → c.primaryKey = true →
    Breaks table before c (.severalPrimaryKeys table first before.length)
  | duplicateMember {b : Column} : b ∈ before → b.member = c.member →
    Breaks table before c (.duplicateMember c.member table)

namespace Schema

variable {table : String} {before cs : List Column} {c : Column} {fault : SchemaFault}

/-- What the check of a column reports is a rule that the column breaks. -/
lemma breaks_of_columnFault? (h : columnFault? table before c = some fault) :
    c.Breaks table before fault := by
  unfold columnFault? at h
  split at h
  case isTrue hempty =>
    cases h
    exact .emptyName hempty
  case isFalse =>
    split at h
    case isTrue hname =>
      cases h
      obtain ⟨b, hb, heq⟩ := List.any_eq_true.mp hname
      exact .duplicateColumn hb (beq_iff_eq.mp heq)
    case isFalse =>
      split at h
      next first hkey hfirst =>
        cases h
        obtain ⟨hi, hfirstKey, -⟩ := List.findIdx?_eq_some_iff_getElem.mp hfirst
        exact .severalPrimaryKeys (List.getElem?_eq_getElem hi) hfirstKey hkey
      next =>
        split at h
        case isTrue hmember =>
          cases h
          obtain ⟨b, hb, heq⟩ := List.any_eq_true.mp hmember
          exact .duplicateMember hb (beq_iff_eq.mp heq)
        case isFalse => cases h

/-- The check of several columns reports what the first column with a fault breaks. -/
lemma exists_of_firstFault? (h : firstFault? table before cs = some fault) :
    ∃ pre c post, cs = pre ++ c :: post ∧ firstFault? table before pre = none ∧
      columnFault? table (before ++ pre) c = some fault := by
  induction cs generalizing before with
  | nil => cases h
  | cons c cs ih =>
    rw [firstFault?] at h
    cases hfault : columnFault? table before c with
    | some found =>
      rw [hfault] at h
      cases h
      refine ⟨[], c, cs, rfl, rfl, ?_⟩
      rw [List.append_nil]
      exact hfault
    | none =>
      rw [hfault] at h
      obtain ⟨pre, c', post, rfl, hpre, hc'⟩ := ih h
      refine ⟨c :: pre, c', post, rfl, ?_, ?_⟩
      · rw [firstFault?, hfault]
        exact hpre
      · rw [List.append_cons]
        exact hc'

/-- What is wrong with a description is that the table has no name, or a rule that one of its
columns breaks while the columns before it are consistent. -/
lemma cases_of_fault? (h : fault? table cs = some fault) :
    table = "" ∧ fault = .emptyTableName ∨
      ∃ pre c post, cs = pre ++ c :: post ∧ Consistent table pre ∧ c.Breaks table pre fault := by
  unfold fault? at h
  split at h
  case isTrue hname =>
    cases h
    exact .inl ⟨hname, rfl⟩
  case isFalse hname =>
    obtain ⟨pre, c, post, rfl, hpre, hc⟩ := exists_of_firstFault? h
    have hnone : fault? table pre = none := by
      rw [fault?, if_neg hname]
      exact hpre
    exact .inr ⟨pre, c, post, rfl, consistent_iff.mp hnone, breaks_of_columnFault? hc⟩

end Schema

namespace Table

variable {t : Table} {s : String} {i : Nat} {c : Column}

/-- A column is resolved by its index. -/
lemma resolve_of_column? (h : t.column? i = some c) : t.resolve i = .ok c := by
  rw [resolve, h]

/-- An index past the columns is an error. -/
lemma resolve_of_column?_none (h : t.column? i = none) :
    t.resolve i = .error (.unresolvableMember (.index i) t.name) := by
  rw [resolve, h]

/-- The member of a column is resolved to the index of the column. -/
lemma resolveMember_member (h : t.column? i = some c) : t.resolveMember c.member = .ok i := by
  rw [resolveMember, OrderedMap.indexOf?_eq_some (getIndex?_member h)]

/-- A member that no column has is an error. -/
lemma resolveMember_of_notMem (h : s ∉ t.columns.map Column.member) :
    t.resolveMember s = .error (.unresolvableMember (.named s) t.name) := by
  rw [← t.holds.members] at h
  rw [resolveMember, OrderedMap.indexOf?_eq_none h]

/-- The primary key is the marked column, of which there is at most one. -/
lemma primaryKeyIndex?_eq_some :
    t.primaryKeyIndex? = some i ↔ ∃ c, t.column? i = some c ∧ c.primaryKey = true := by
  rw [primaryKeyIndex?, t.holds.primaryKey, column?_eq]
  constructor
  case mp =>
    intro h
    obtain ⟨hi, hkey, -⟩ := List.findIdx?_eq_some_iff_getElem.mp h
    exact ⟨_, List.getElem?_eq_getElem hi, hkey⟩
  case mpr =>
    rintro ⟨c, hc, hkey⟩
    obtain ⟨hi, rfl⟩ := List.getElem?_eq_some_iff.mp hc
    rw [List.findIdx?_eq_some_iff_getElem]
    refine ⟨hi, hkey, fun j hji hj => ?_⟩
    have hpairs := Schema.pairwise_not_keys.mpr t.consistency.key
    exact List.pairwise_iff_getElem.mp hpairs j i _ hi hji ⟨hj, hkey⟩

/-- There is no primary key just if no column is marked. -/
lemma primaryKeyIndex?_eq_none :
    t.primaryKeyIndex? = none ↔ ∀ c ∈ t.columns, c.primaryKey = false := by
  rw [primaryKeyIndex?, t.holds.primaryKey]
  exact List.findIdx?_eq_none_iff

end Table

/-- A table is built just if its description is consistent.  Then it has the given columns in their
order; a column is found by its name, its member and its index, and nothing else is; and the index
of the primary key is that of the marked column.  If the table is not built, then it has no name, or
the error is about a rule that a column breaks while those before it are consistent. -/
theorem Table.build_indexes (name : String) (cs : List Column) :
    ((∃ t, Table.build name cs = .ok t) ↔ Schema.Consistent name cs) ∧
    (∀ t, Table.build name cs = .ok t → t.name = name ∧ t.columns = cs ∧
      (∀ i c, cs[i]? = some c → t.columnByName? c.name = some (i, c) ∧
        t.columnByMember? c.member = some (i, c) ∧ t.resolveMember c.member = .ok i ∧
        t.resolve i = .ok c) ∧
      (∀ s, s ∉ cs.map Column.name → t.columnByName? s = none) ∧
      (∀ s, s ∉ cs.map Column.member → t.columnByMember? s = none ∧
        t.resolveMember s = .error (.unresolvableMember (.named s) name)) ∧
      (∀ i, cs.length ≤ i → t.column? i = none ∧
        t.resolve i = .error (.unresolvableMember (.index i) name)) ∧
      (∀ i, t.primaryKeyIndex? = some i ↔ ∃ c, cs[i]? = some c ∧ c.primaryKey = true) ∧
      (t.primaryKeyIndex? = none ↔ ∀ c ∈ cs, c.primaryKey = false)) ∧
    ∀ err, Table.build name cs = .error err → ∃ fault, err = .invalidSchema fault ∧
      (name = "" ∧ fault = .emptyTableName ∨
        ∃ pre c post, cs = pre ++ c :: post ∧ Schema.Consistent name pre ∧
          c.Breaks name pre fault) := by
  refine ⟨?built, ?lookups, ?faults⟩
  case built => rw [build_succeeds, Schema.consistent_iff]
  case lookups =>
    intro t h
    obtain rfl := name_of_build h
    obtain rfl := columns_of_build h
    refine ⟨rfl, rfl, fun i c hc => ?_, fun s hs => columnByName?_eq_none hs,
      fun s hs => ⟨columnByMember?_eq_none hs, resolveMember_of_notMem hs⟩, fun i hi => ?_,
      fun i => ?_, primaryKeyIndex?_eq_none⟩
    · rw [← column?_eq] at hc
      exact ⟨columnByName?_name hc, columnByMember?_member hc, resolveMember_member hc,
        resolve_of_column? hc⟩
    · have hnone : t.column? i = none := (column?_eq t i).trans (List.getElem?_eq_none hi)
      exact ⟨hnone, resolve_of_column?_none hnone⟩
    · rw [← column?_eq]
      exact primaryKeyIndex?_eq_some
  case faults =>
    intro err h
    obtain ⟨fault, hfault, rfl⟩ := error_of_build h
    exact ⟨fault, rfl, Schema.cases_of_fault? hfault⟩

/-- The columns of a table of crates. -/
def crateColumns : List Column :=
  [⟨"Id", "id", .int, false, true⟩, ⟨"Label", "label", .text, true, false⟩]

/-- Crates are found by label, and a second key after them is reported as such. -/
theorem Table.build_indexes_crates :
    (∃ t, Table.build "Crates" crateColumns = .ok t ∧
      t.columnByMember? "label" = some (1, ⟨"Label", "label", .text, true, false⟩) ∧
      t.columnByName? "label" = none ∧ t.primaryKeyIndex? = some 0) ∧
    ∃ fault, Table.build "Crates" (crateColumns ++ [⟨"Code", "id", .int, false, true⟩]) =
        .error (.invalidSchema fault) ∧ fault = .severalPrimaryKeys "Crates" 0 2 ∧
      ∃ pre c post, crateColumns ++ [⟨"Code", "id", .int, false, true⟩] = pre ++ c :: post ∧
        c.Breaks "Crates" pre fault := by
  obtain ⟨hbuilt, hlookups, -⟩ := build_indexes "Crates" crateColumns
  have hconsistent : Schema.Consistent "Crates" crateColumns :=
    ⟨by decide, by decide, by decide, by decide, by decide⟩
  obtain ⟨t, ht⟩ := hbuilt.mpr hconsistent
  obtain ⟨-, -, hfound, hname, -, -, hkey, -⟩ := hlookups t ht
  refine ⟨⟨t, ht, (hfound 1 _ rfl).2.1, hname "label" (by decide),
    (hkey 0).mpr ⟨_, rfl, rfl⟩⟩, .severalPrimaryKeys "Crates" 0 2, rfl, rfl, ?_⟩
  obtain ⟨fault, hfault, ⟨hempty, -⟩ | ⟨pre, c, post, hsplit, -, hbreaks⟩⟩ :=
    (build_indexes "Crates" (crateColumns ++ [⟨"Code", "id", .int, false, true⟩])).2.2
      (.invalidSchema (.severalPrimaryKeys "Crates" 0 2)) rfl
  · exact absurd hempty (by decide)
  · cases hfault
    exact ⟨pre, c, post, hsplit, hbreaks⟩

end TableQuery
