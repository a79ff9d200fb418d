/-!
# Storage classes

The storage class of a column is the application's view of what the column holds.  The type that a
database stores it as is chosen by each dialect on its own.
-/

namespace TableQuery

/-- The storage class of a column. -/
inductive ColumnType where
  | int
  | float
  | text
  | bool
  | dateTime
  | guid
  | blob
  | enum
  deriving DecidableEq, Repr

namespace ColumnType

/-- All storage classes. -/
def all : List ColumnType := [int, float, text, bool, dateTime, guid, blob, enum]

/-- The name of a storage class. -/
def name : ColumnType → String
  | int => "Int"
  | float => "Float"
  | text => "Text"
  | bool => "Bool"
  | dateTime => "DateTime"
  | guid => "Guid"
  | blob => "Blob"
  | enum => "Enum"

/-- The storage class with a given name. -/
def ofName? (s : String) : Option ColumnType := all.find? (fun t => t.name == s)

/-- Whether values of the class take part in arithmetic. -/
def isNumeric (t : ColumnType) : Bool := t == int || t == float || t == enum

/-- Whether the class is that of text. -/
def isText (t : ColumnType) : Bool := t == text

/-- Whether the class is that of truth values. -/
def isBool (t : ColumnType) : Bool := t == bool

/-- Whether the class is that of dates and times. -/
def isDateTime (t : ColumnType) : Bool := t == dateTime

/-- Whether a conversion never loses information. -/
def widensTo (source target : ColumnType) : Bool :=
  source == target ||
    match source, target with
    | int, float | enum, float | enum, int => true
    | _, _ => false

/-- What a value of the class is called in messages; null has no class. -/
def kindName : Option ColumnType → String
  | none => "null"
  | some int => "integer"
  | some float => "float"
  | some text => "string"
  | some bool => "bool"
  | some dateTime => "datetime"
  | some guid => "guid"
  | some blob => "blob"
  | some enum => "enum"

end ColumnType

end TableQuery
