import TableQuery.ColumnType
import TableQuery.Error
import TableQuery.Schema.OrderedMap

/-!
# Table descriptions

A table has a name and an index of its columns: the columns by their members, in the order in which
they were declared, their places by their names, and the place of the primary key.  One loop over
the columns fills the three (`Schema.Index.addAll`) and stops at the first column that breaks a
rule: no name is empty, no two columns share a name or a member, and at most one column is the
primary key.  Every value of `Table` holds an index that the loop has built.
-/

namespace TableQuery

/-- A column of a table, and the member of the record type it is mapped from. -/
structure Column where
  name : String
  member : String
  ty : ColumnType
  nullable : Bool := false
  primaryKey : Bool := false
  deriving DecidableEq

namespace Schema

/-- The columns of a table, with what they are looked up by. -/
structure Index where
  /-- The columns, by their members. -/
  columns : OrderedMap String Column
  /-- The places of the columns, by their names. -/
  byName : OrderedMap String Nat
  /-- The place of the primary key column. -/
  primaryKey : Option Nat
  deriving DecidableEq

namespace Index

/-- The index of no columns. -/
def empty : Index := ⟨.empty, .empty, none⟩

/-- The place of the primary key once the column at a place has been seen.  Only one column can be
the key. -/
def key (table : String) (key? : Option Nat) (place : Nat) (c : Column) :
    Except SchemaFault (Option Nat) :=
  match c.primaryKey, key? with
  | true, some first => .error (.severalPrimaryKeys table first place)
  | true, none => .ok (some place)
  | false, _ => .ok key?

/-- The index with one column more, once its name and what is the key are known. -/
def addMember (table : String) (ix : Index) (byName : OrderedMap String Nat) (key : Option Nat)
    (c : Column) : Except SchemaFault Index :=
  match ix.columns.insert c.member c with
  | (some old, _) => .error (.duplicateMember old.member table)
  | (none, columns) => .ok ⟨columns, byName, key⟩

/-- The index with one column more, which is at a given place. -/
def add (table : String) (ix : Index) (place : Nat) (c : Column) : Except SchemaFault Index :=
  if c.name = "" ∨ c.member = "" then .error (.emptyColumnName place table)
  else
    match ix.byName.insert c.name place with
    | (some _, _) => .error (.duplicateColumn c.name table)
    | (none, byName) => do ix.addMember table byName (← key table ix.primaryKey place c) c

/-- The index with several columns more, of which the first is at a given place. -/
def addAll (table : String) (ix : Index) (place : Nat) : List Column → Except SchemaFault Index
  | [] => .ok ix
  | c :: rest => do (← ix.add table place c).addAll table (place + 1) rest

/-- The index of the columns of a table. -/
def build (table : String) (columns : List Column) : Except SchemaFault Index :=
  if table = "" then .error .emptyTableName else addAll table .empty 0 columns

end Index

end Schema

/-- A description of a table: its name and the index built from its columns. -/
structure Table where
  name : String
  index : Schema.Index
  built : ∃ columns, Schema.Index.build name columns = .ok index
  deriving DecidableEq

namespace Table

/-- The table with a given name and columns, if the description is consistent. -/
def build (name : String) (columns : List Column) : Except Error Table :=
  match h : Schema.Index.build name columns with
  | .ok index => .ok ⟨name, index, columns, h⟩
  | .error fault => .error (.invalidSchema fault)

/-- The columns, in the order in which they were declared. -/
def columns (t : Table) : List Column := t.index.columns.values

/-- The column at an index. -/
def column? (t : Table) (index : Nat) : Option Column :=
  (t.index.columns.getIndex? index).map Prod.snd

/-- The column at an index; it is an error if there is none. -/
def resolve (t : Table) (index : Nat) : Except Error Column :=
  match t.column? index with
  | some c => .ok c
  | none => .error (.unresolvableMember (.index index) t.name)

/-- The column of a member, with its index. -/
def columnByMember? (t : Table) (member : String) : Option (Nat × Column) :=
  t.index.columns.getFull? member

/-- The column with a name, with its index. -/
def columnByName? (t : Table) (name : String) : Option (Nat × Column) := do
  let index ← t.index.byName.get? name
  return (index, ← t.column? index)

/-- The index of the column of a member; it is an error if there is none. -/
def resolveMember (t : Table) (member : String) : Except Error Nat :=
  match t.index.columns.indexOf? member with
  | some index => .ok index
  | none => .error (.unresolvableMember (.named member) t.name)

/-- The index of the primary key column. -/
def primaryKeyIndex? (t : Table) : Option Nat := t.index.primaryKey

/-- The primary key column. -/
def primaryKey? (t : Table) : Option Column := t.primaryKeyIndex?.bind t.column?

end Table

end TableQuery
