import Mathlib.Data.List.Forall2
import Mathlib.Data.List.Nodup
import TableQuery.Proofs.Declaration.Fields
import TableQuery.Proofs.Schema.Index

/-!
# The table of a mapping

A record that can be mapped has been checked once already: its columns have different names and at
most one of them is the key.  The table that is built from the mapping is checked again, by rules of
its own, and passes them unless a column has no name (`Record.schema_of_mapping`).  A name that an
attribute gives is never empty, but the one that is made from the name of a field may be.
-/

namespace TableQuery.Declaration

section Steps

variable {α ε δ : Type} {a : α}

/-- Where there is a result, a check before it has passed. -/
lemma ok_of_guard {p : Prop} [Decidable p] {fault : ε} {next : Unit → Except ε α}
    (h : (if p then throw fault >>= next else next ()) = .ok a) : ¬ p ∧ next () = .ok a := by
  by_cases hp : p
  · rw [if_pos hp] at h
    cases h
  · rw [if_neg hp] at h
    exact ⟨hp, h⟩

/-- What succeeds with other errors succeeds. -/
lemma ok_of_mapError {f : ε → δ} {x : Except ε α} (h : x.mapError f = .ok a) : x = .ok a := by
  cases x with
  | error e => cases h
  | ok b => exact congrArg Except.ok (Except.ok.inj h)

end Steps

/-- Faults are collected from none of what succeeds together. -/
lemma collect_ok {α : Type} {xs : List (Except (List Fault) α)} {as : List α}
    (h : collect xs = .ok as) : xs = as.map .ok := by
  induction xs generalizing as with
  | nil =>
    cases h
    rfl
  | cons x xs ih =>
    cases x with
    | error fs =>
      rw [collect] at h
      cases hrest : collect xs with
      | ok bs => rw [hrest] at h; cases h
      | error gs => rw [hrest] at h; cases h
    | ok a =>
      rw [collect] at h
      cases hrest : collect xs with
      | error gs => rw [hrest] at h; cases h
      | ok bs =>
        rw [hrest] at h
        cases h
        rw [ih hrest]
        rfl

section Checks

variable {columns : List DeclaredColumn} {before : List String}

/-- Without a fault at most one column is marked as key. -/
lemma pairwise_of_keyFaults (h : keyFaults columns = []) :
    columns.Pairwise fun b c => ¬ (b.primaryKey = true ∧ c.primaryKey = true) := by
  have hkeys : (columns.filter (·.primaryKey)).Pairwise fun _ _ => False := by
    have hdrop : (columns.filter (·.primaryKey)).drop 1 = [] := List.map_eq_nil_iff.mp h
    cases hfilter : columns.filter (·.primaryKey) with
    | nil => exact .nil
    | cons c rest =>
      rw [hfilter] at hdrop
      cases (hdrop : rest = [])
      exact List.pairwise_singleton _ c
  refine (List.pairwise_filter.mp hkeys).imp fun hfalse hboth => ?_
  exact hfalse hboth.1 hboth.2

/-- Without a fault no column has the name of an earlier one. -/
lemma nodup_of_nameFaults (h : nameFaults before columns = []) :
    (∀ c ∈ columns, c.name ∉ before) ∧ (columns.map (·.name)).Nodup := by
  induction columns generalizing before with
  | nil => exact ⟨nofun, .nil⟩
  | cons c rest ih =>
    obtain ⟨hc, hrest⟩ := List.append_eq_nil_iff.mp h
    obtain ⟨hnew, hnodup⟩ := ih hrest
    have hc : c.name ∉ before := by
      intro hmem
      rw [if_pos (List.contains_iff_mem.mpr hmem)] at hc
      cases hc
    refine ⟨List.forall_mem_cons.mpr ⟨hc, fun d hd hmem => ?_⟩, ?_⟩
    · exact hnew d hd (List.mem_cons_of_mem _ hmem)
    · refine List.nodup_cons.mpr ⟨fun hmem => ?_, hnodup⟩
      obtain ⟨d, hd, heq⟩ := List.mem_map.mp hmem
      exact hnew d hd (heq ▸ List.mem_cons_self)

end Checks

/-- A table name that an attribute gives is not empty. -/
lemma tableName?_ne {as : List Attribute} {found given : Option String}
    (h : tableName? found as = .ok given) (hfound : found ≠ some "") : given ≠ some "" := by
  induction as generalizing found with
  | nil =>
    cases h
    exact hfound
  | cons a as ih =>
    rw [tableName?] at h
    by_cases hpath : a.path ≠ "table"
    · rw [if_pos hpath] at h
      exact ih h hfound
    by_cases hsome : found.isSome = true
    · rw [if_neg hpath, if_pos hsome] at h
      cases h
    rw [if_neg hpath, if_neg hsome] at h
    obtain ⟨s, hs, hrest⟩ := ok_of_bind h
    refine ih hrest fun heq => ?_
    cases heq
    revert hs
    unfold readTableName
    split
    · split
      · exact nofun
      next hne => exact fun heq => hne (Except.ok.inj heq)
    · exact nofun

/-- A record that has a mapping has it as its declaration. -/
lemma Record.declaration_of_mapping {r : Record} {m : Mapping} (h : r.mapping = .ok m) :
    r.declaration = .ok m := by
  unfold mapping at h
  obtain ⟨m', hm, h⟩ := ok_of_bind h
  obtain ⟨-, h⟩ := ok_of_guard h
  cases h
  exact ok_of_mapError hm

/-- What the parts of a declaration are. -/
lemma Record.columns_of_declaration {r : Record} {m : Mapping} (h : r.declaration = .ok m) :
    (∃ name?, tableName? none r.attributes = .ok name? ∧ m.table = name?.getD r.name) ∧
      r.columns = .ok m.columns ∧ m.visibility = compact r.visibility := by
  unfold declaration at h
  cases hvalue : valueFault? (r.attributes ++ r.fields.flatMap (·.attributes)) with
  | some f =>
    rw [hvalue] at h
    cases h
  | none =>
    rw [hvalue] at h
    -- The checks of the shape and of the parameters are of no concern to the columns.
    obtain ⟨-, h⟩ := ok_of_guard h
    obtain ⟨-, h⟩ := ok_of_guard h
    obtain ⟨name?, hname, h⟩ := ok_of_bind h
    obtain ⟨columns, hcolumns, h⟩ := ok_of_bind h
    cases h
    exact ⟨⟨name?, ok_of_mapError hname, rfl⟩, hcolumns, rfl⟩

/-- The columns of a record pass its checks. -/
lemma Record.checks_of_columns {r : Record} {columns : List DeclaredColumn}
    (h : r.columns = .ok columns) :
    r.fields.map Field.column = columns.map .ok ∧ keyFaults columns = [] ∧
      nameFaults [] columns = [] := by
  unfold Record.columns at h
  obtain ⟨columns', hcollect, h⟩ := ok_of_bind h
  obtain ⟨-, h⟩ := ok_of_guard h
  dsimp only at h
  cases hfaults : keyFaults columns' ++ nameFaults [] columns' with
  | cons f fs =>
    rw [hfaults] at h
    cases h
  | nil =>
    rw [hfaults] at h
    cases h
    exact ⟨collect_ok hcollect, List.append_eq_nil_iff.mp hfaults⟩

/-- The column of a table that a declared column becomes. -/
def DeclaredColumn.mapped (storage : String → ColumnType) (nullable : String → Bool)
    (c : DeclaredColumn) : Column where
  name := c.name
  member := bareName c.field
  ty := c.ty.getD (storage c.fieldType)
  nullable := nullable c.fieldType
  primaryKey := c.primaryKey

/-- The schema of a mapping is the table of its columns. -/
lemma Mapping.schema_eq (m : Mapping) (storage : String → ColumnType) (nullable : String → Bool) :
    m.schema storage nullable = Table.build m.table (m.columns.map (·.mapped storage nullable)) :=
  rfl

section Mapping

variable {r : Record} {m : Mapping} {storage : String → ColumnType} {nullable : String → Bool}

/-- The declared column of a field becomes the column that the field stands for. -/
lemma Field.mapped_of_column {f : Field} {c : DeclaredColumn} (h : f.column = .ok c) :
    c.mapped storage nullable = f.mapped storage nullable := by
  obtain ⟨hfield, hname, hty, htype, hkey, -⟩ := Field.column_ok h
  unfold DeclaredColumn.mapped Field.mapped Field.member Field.columnType
  rw [hfield, hname, hty, htype, hkey]
  rfl

/-- The columns of a mapping are those its fields declare. -/
lemma Record.forall₂_of_mapping (h : r.mapping = .ok m) :
    List.Forall₂ (fun f c => Field.column f = .ok c) r.fields m.columns := by
  obtain ⟨-, hcolumns, -⟩ := Record.columns_of_declaration (Record.declaration_of_mapping h)
  obtain ⟨hfields, -⟩ := Record.checks_of_columns hcolumns
  rw [← List.forall₂_eq_eq_eq, List.forall₂_map_left_iff, List.forall₂_map_right_iff] at hfields
  exact hfields

/-- The columns of a mapping are those of the fields of the record. -/
lemma Record.mapped_of_mapping (h : r.mapping = .ok m) :
    m.columns.map (·.mapped storage nullable) = r.fields.map (·.mapped storage nullable) := by
  rw [eq_comm, ← List.forall₂_eq_eq_eq, List.forall₂_map_left_iff, List.forall₂_map_right_iff]
  exact (Record.forall₂_of_mapping h).imp fun _ _ hc => (Field.mapped_of_column hc).symm

/-- The columns that the fields stand for do not clash if the fields have different members. -/
lemma Record.pairwise_of_mapping (h : r.mapping = .ok m)
    (hmembers : (r.fields.map Field.member).Nodup) :
    (r.fields.map (·.mapped storage nullable)).Pairwise fun b c => ¬ b.Clash c := by
  obtain ⟨-, hcolumns, -⟩ := Record.columns_of_declaration (Record.declaration_of_mapping h)
  obtain ⟨-, hkeys, hnames⟩ := Record.checks_of_columns hcolumns
  have hmembers : (r.fields.map (·.mapped storage nullable)).Pairwise
      fun b c => b.member ≠ c.member := List.pairwise_map.mpr (List.pairwise_map.mp hmembers)
  rw [← Record.mapped_of_mapping h, List.pairwise_map] at hmembers ⊢
  have hnames := List.pairwise_map.mp (nodup_of_nameFaults hnames).2
  have hkeys := pairwise_of_keyFaults hkeys
  refine (hnames.and (hmembers.and hkeys)).imp ?_
  rintro b c ⟨hname, hmember, hkey⟩ (heq | heq | heq)
  · exact hname heq
  · exact hmember heq
  · exact hkey heq

/-- A name that an attribute of a mapped field gives is not empty. -/
lemma Record.given_ne_of_mapping (h : r.mapping = .ok m) {f : Field} (hf : f ∈ r.fields) :
    f.columnTokens.findSome? Token.text? ≠ some "" := by
  obtain ⟨i, hi, rfl⟩ := List.mem_iff_getElem.mp hf
  have hall := Record.forall₂_of_mapping h
  have hc := hall.get hi (hall.length_eq ▸ hi)
  exact (Field.column_ok hc).2.2.2.2.2

/-- The table of a mapping is built just if all its columns have names. -/
lemma Record.schema_succeeds (h : r.mapping = .ok m) (hrecord : r.name ≠ "")
    (hfields : ∀ f ∈ r.fields, f.member ≠ "") (hmembers : (r.fields.map Field.member).Nodup) :
    (∃ t, m.schema storage nullable = .ok t) ↔ ∀ f ∈ r.fields, f.columnName ≠ "" := by
  rw [Mapping.schema_eq, Record.mapped_of_mapping h, Table.build_succeeds, Schema.fault?_eq_none]
  obtain ⟨⟨name?, hname, htable⟩, -⟩ :=
    Record.columns_of_declaration (Record.declaration_of_mapping h)
  have htable : m.table ≠ "" := by
    rw [htable]
    have hne := tableName?_ne hname nofun
    cases name? with
    | none => exact hrecord
    | some s => exact fun heq => hne (congrArg some heq)
  rw [and_iff_right htable, and_iff_left (Record.pairwise_of_mapping h hmembers),
    List.forall_mem_map]
  exact forall₂_congr fun f hf => and_iff_left (hfields f hf)

/-- The accessor at a place is that of the column there. -/
lemma Mapping.getElem?_accessors (m : Mapping) (i : Nat) :
    m.accessors[i]? = m.columns[i]?.map fun c => ⟨m.visibility, c.field, c.fieldType, i⟩ := by
  rw [Mapping.accessors, List.getElem?_map, List.getElem?_zipIdx, Option.map_map, Nat.zero_add]
  rfl

/-- A record that can be mapped, with names that are not empty and fields that have different
members, has a table just if no column without a name of its own is left without any.  The columns
of the table are those the fields stand for, and the accessor of a field leads to its column. -/
theorem Record.schema_of_mapping (storage : String → ColumnType) (nullable : String → Bool)
    (h : r.mapping = .ok m) (hrecord : r.name ≠ "") (hfields : ∀ f ∈ r.fields, f.member ≠ "")
    (hmembers : (r.fields.map Field.member).Nodup) :
    ((∃ t, m.schema storage nullable = .ok t) ↔
      ∀ f ∈ r.fields, f.columnTokens.findSome? Token.text? = none →
        Field.defaultColumnName (f.name.getD "") ≠ "") ∧
    ∀ t, m.schema storage nullable = .ok t →
      t.columns = r.fields.map (·.mapped storage nullable) ∧
      m.accessors.length = r.fields.length ∧
      ∀ (i : Nat) (f : Field), r.fields[i]? = some f →
        ∃ a : Accessor, m.accessors[i]? = some a ∧ some a.name = f.name ∧
          a.fieldType = compact f.ty ∧ a.index = i ∧
            t.resolve a.index = .ok (f.mapped storage nullable) := by
  refine ⟨?_, fun t ht => ?_⟩
  · rw [Record.schema_succeeds h hrecord hfields hmembers]
    refine forall₂_congr fun f hf => ?_
    -- A name that is given is not empty, so only a name made of the field's can be.
    have hgiven := Record.given_ne_of_mapping h hf
    unfold Field.columnName
    cases htext : f.columnTokens.findSome? Token.text? with
    | none => exact ⟨fun hne _ => hne, fun hne => hne rfl⟩
    | some s => exact iff_of_true (fun heq => hgiven (htext.trans (congrArg some heq))) nofun
  · rw [Mapping.schema_eq] at ht
    have hcolumns := Table.columns_of_build ht
    rw [Record.mapped_of_mapping h] at hcolumns
    have hall := Record.forall₂_of_mapping h
    refine ⟨hcolumns, ?_, fun i f hf => ?_⟩
    · rw [Mapping.accessors, List.length_map, List.length_zipIdx, hall.length_eq]
    · obtain ⟨hi, rfl⟩ := List.getElem?_eq_some_iff.mp hf
      have hi' : i < m.columns.length := hall.length_eq ▸ hi
      obtain ⟨hname, -, -, htype, -⟩ := Field.column_ok (hall.get hi hi')
      refine ⟨⟨m.visibility, m.columns[i].field, m.columns[i].fieldType, i⟩, ?_, hname.symm, htype,
        rfl, ?_⟩
      · rw [Mapping.getElem?_accessors, List.getElem?_eq_getElem hi']
        rfl
      · rw [Table.resolve, Table.column?_eq, hcolumns, List.getElem?_map, hf]
        rfl

end Mapping

/-- A record of pages. -/
def pageRecord : Record where
  name := "Page"
  visibility := "pub"
  fields := [
    ⟨some "page_id", "i64", [⟨"key", .nothing⟩]⟩,
    ⟨some "r#type", "Option<u8>",
      [⟨"column", .list [.word "type", .mark '=', .word "enum", .mark ',', .text "kind"]⟩]⟩]

/-- The mapping of pages. -/
def pageMapping : Mapping where
  record := "Page"
  visibility := "pub"
  table := "Page"
  columns := [⟨"PageId", "page_id", none, "i64", true⟩,
    ⟨"kind", "r#type", some .enum, "Option<u8>", false⟩]

/-- The accessor of the type of a page leads to the column of its kind. -/
theorem Record.schema_of_mapping_page :
    pageRecord.mapping = .ok pageMapping ∧
      ∃ t, pageMapping.schema (fun _ => .int) (· == "Option<u8>") = .ok t ∧
        ∃ a : Accessor, pageMapping.accessors[1]? = some a ∧ a.name = "r#type" ∧
          t.resolve a.index = .ok ⟨"kind", "type", .enum, true, false⟩ := by
  have hmapping : pageRecord.mapping = .ok pageMapping := by decide +kernel
  have hfields : ∀ f ∈ pageRecord.fields, f.member ≠ "" := by decide +kernel
  have hmembers : (pageRecord.fields.map Field.member).Nodup := by decide +kernel
  have hdefaults : ∀ f ∈ pageRecord.fields, f.columnTokens.findSome? Token.text? = none →
      Field.defaultColumnName (f.name.getD "") ≠ "" := by decide +kernel
  obtain ⟨hsucceeds, hcolumns⟩ := Record.schema_of_mapping (fun _ => .int) (· == "Option<u8>")
    hmapping (by decide) hfields hmembers
  obtain ⟨t, ht⟩ := hsucceeds.mpr hdefaults
  obtain ⟨-, -, haccessors⟩ := hcolumns t ht
  obtain ⟨a, ha, hname, -, -, hresolve⟩ := haccessors 1 _ rfl
  refine ⟨hmapping, t, ht, a, ha, Option.some.inj hname, ?_⟩
  rw [hresolve]
  exact congrArg Except.ok (by decide +kernel)

/-- A record with a field whose name has neither letters nor digits. -/
def blankRecord : Record where
  name := "Blank"
  fields := [⟨some "__", "i32", []⟩]

/-- The mapping of that record, in which the column has no name. -/
def blankMapping : Mapping where
  record := "Blank"
  visibility := ""
  table := "Blank"
  columns := [⟨"", "__", none, "i32", false⟩]

/-- The record can be mapped, but no table can be built from its mapping. -/
theorem blank_has_no_schema :
    blankRecord.mapping = .ok blankMapping ∧ (blankRecord.fields.map Field.member).Nodup ∧
      blankMapping.schema (fun _ => .int) (fun _ => false) =
        .error (.invalidSchema (.emptyColumnName 0 "Blank")) :=
  ⟨by decide +kernel, by decide +kernel, rfl⟩

end TableQuery.Declaration
