import TableQuery.Declaration.Attribute
import TableQuery.Schema.Table
import TableQuery.Text.Blank
import TableQuery.Text.Words

/-!
# Records mapped to tables

The declaration of a record type gives a table its description: the table is named after the type
and a column after each field, unless attributes say otherwise.  `Record.mapping` reads the
description off a declaration and reports all that is wrong with it; `Mapping.schema` is the table
itself.
-/

namespace TableQuery.Declaration

/-- A text with its blanks left out. -/
def compact (s : String) : String :=
  String.ofList (s.toList.filter (fun c => !Text.isBlank c))

/-- Whether a list of type parameters in angle brackets has any. -/
def hasParameters (parameters : String) : Bool :=
  compact parameters != "" && compact parameters != "<>"

/-- An identifier without the mark that lets a keyword be used as one. -/
def bareName (name : String) : String :=
  match name.toList with
  | 'r' :: '#' :: rest => String.ofList rest
  | _ => name

/-- A field of a record; in a tuple it has no name. -/
structure Field where
  name : Option String
  ty : String
  attributes : List Attribute := []

/-- How the fields of a record are written. -/
inductive Shape where
  | named
  | tuple
  | unit
  deriving DecidableEq

/-- The declaration of a record type. -/
structure Record where
  name : String
  shape : Shape := .named
  visibility : String := ""
  parameters : String := ""
  attributes : List Attribute := []
  fields : List Field := []

/-- A column as its field declares it.  Without a storage class of its own the column takes the one
that goes with the type of the field, and whether it may be null goes with that type too. -/
structure DeclaredColumn where
  name : String
  field : String
  ty : Option ColumnType
  fieldType : String
  primaryKey : Bool
  deriving DecidableEq

/-- The accessor of a column: a method of the fields type, with the column it stands for. -/
structure Accessor where
  visibility : String
  name : String
  fieldType : String
  index : Nat
  deriving DecidableEq

/-- The mapping of a record type to a table. -/
structure Mapping where
  record : String
  visibility : String
  table : String
  columns : List DeclaredColumn
  deriving DecidableEq

/-- Why a declaration cannot be mapped: its faults in the order they are found, or a name that
cannot be made from the name of the type. -/
inductive Rejection where
  | faults (fs : List Fault)
  | invalidName (name : String)
  deriving DecidableEq

namespace Field

/-- What the attributes of a field have said so far, and the faults found in them. -/
structure Reading where
  key : Bool := false
  column : Option ColumnOptions := none
  faults : List Fault := []

/-- Adds a fault. -/
def Reading.fail (r : Reading) (f : Fault) : Reading := { r with faults := r.faults ++ [f] }

/-- Reads one attribute of a field; one that is neither `key` nor `column` says nothing. -/
def Reading.add (r : Reading) (a : Attribute) : Reading :=
  if a.path = "key" then
    if r.key then r.fail .repeatedKey
    else if a.argument = .nothing then { r with key := true }
    else r.fail .keyForm
  else if a.path = "column" then
    if r.column.isSome then r.fail .repeatedColumnAttribute
    else
      match ColumnOptions.read a.argument with
      | .ok options => { r with column := some options }
      | .error f => r.fail f
  else r

/-- The name of the column of a field that gives no other. -/
def defaultColumnName (name : String) : String :=
  String.ofList (Text.upperCamelCase (Text.snakeCase (bareName name).toList))

/-- The column that a field declares. -/
def column (f : Field) : Except (List Fault) DeclaredColumn :=
  match f.name with
  | none => .error [.unnamedField]
  | some name =>
    let r := f.attributes.foldl Reading.add {}
    if r.faults.isEmpty then
      .ok {
        name := (r.column.bind (·.name)).getD (defaultColumnName name)
        field := name
        ty := r.column.bind (·.ty)
        fieldType := compact f.ty
        primaryKey := r.key }
    else .error r.faults

end Field

/-- The values of a list of results, or all that failed in it. -/
def collect {α : Type} : List (Except (List Fault) α) → Except (List Fault) (List α)
  | [] => .ok []
  | .ok a :: rest => (collect rest).map (a :: ·)
  | .error fs :: rest =>
    match collect rest with
    | .ok _ => .error fs
    | .error gs => .error (fs ++ gs)

/-- A fault for every column marked as key but the first. -/
def keyFaults (columns : List DeclaredColumn) : List Fault :=
  ((columns.filter (·.primaryKey)).drop 1).map fun _ => .severalKeys

/-- A fault for every column whose name an earlier column has. -/
def nameFaults (before : List String) : List DeclaredColumn → List Fault
  | [] => []
  | c :: rest =>
    (if before.contains c.name then [.duplicateColumn c.name] else []) ++
      nameFaults (c.name :: before) rest

namespace Mapping

/-- The name of the type that holds the accessors of the columns. -/
def fieldsName (m : Mapping) : String := m.record ++ "Fields"

/-- The accessors, in the order of the columns; they are as visible as the record. -/
def accessors (m : Mapping) : List Accessor :=
  m.columns.zipIdx.map fun (c, index) => ⟨m.visibility, c.field, c.fieldType, index⟩

/-- The table of a mapping, given the storage class of each field type and which may be null. -/
def schema (m : Mapping) (storage : String → ColumnType) (nullable : String → Bool) :
    Except Error Table :=
  Table.build m.table <| m.columns.map fun c => {
    name := c.name
    member := bareName c.field
    ty := c.ty.getD (storage c.fieldType)
    nullable := nullable c.fieldType
    primaryKey := c.primaryKey }

end Mapping

namespace Record

/-- The columns that the fields of a record declare. -/
def columns (r : Record) : Except (List Fault) (List DeclaredColumn) := do
  let columns ← collect (r.fields.map Field.column)
  if columns.isEmpty then throw [.noFields]
  match keyFaults columns ++ nameFaults [] columns with
  | [] => return columns
  | fs => throw fs

/-- The mapping that a record declares, with all that is wrong with the declaration. -/
def declaration (r : Record) : Except (List Fault) Mapping := do
  if let some f := valueFault? (r.attributes ++ r.fields.flatMap (·.attributes)) then throw [f]
  if r.shape ≠ .named then throw [.unnamedField]
  if hasParameters r.parameters then throw [.tableParameters]
  let name? ← (tableName? none r.attributes).mapError ([·])
  return {
    record := r.name
    visibility := compact r.visibility
    table := name?.getD r.name
    columns := ← r.columns }

/-- The mapping of a record to a table.  A keyword used as the name of the type cannot be extended
to the name of the fields type. -/
def mapping (r : Record) : Except Rejection Mapping := do
  let m ← r.declaration.mapError .faults
  if bareName r.name ≠ r.name then throw (.invalidName m.fieldsName)
  return m

end Record

end TableQuery.Declaration
