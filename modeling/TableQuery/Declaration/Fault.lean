/-!
# Faults of declarations

What can be wrong with the declaration of a type that is to be mapped to a table or stored in a
column.  The wording of each fault is in `Fault.message`.
-/

namespace TableQuery.Declaration

/-- What is wrong with a declaration. -/
inductive Fault where
  | notRecord
  | notEnumeration
  | unnamedField
  | tableParameters
  | noFields
  | repeatedTable
  | tableForm
  | emptyTable
  | repeatedKey
  | keyForm
  | severalKeys
  | repeatedColumnAttribute
  | columnWithoutArguments
  | columnWithValue
  | columnItem (atEnd : Bool)
  | repeatedColumnName
  | emptyColumnName
  | repeatedColumnType
  | missingEquals
  | columnType (atEnd : Bool)
  | missingComma
  | duplicateColumn (name : String)
  | enumerationParameters
  | noVariants
  | variantFields
  | valueExpected (atEnd : Bool)
  | bodyExpected
  | closureExpected
  | bracketsExpected
  deriving DecidableEq

namespace Fault

/-- What was expected, when it was expected where nothing was left. -/
def expectedAt (atEnd : Bool) (what : String) : String :=
  if atEnd then s!"unexpected end of input, expected {what}" else s!"expected {what}"

/-- The wording of a fault. -/
def message : Fault → String
  | notRecord => "expected `struct`"
  | notEnumeration => "expected `enum`"
  | unnamedField => "table fields must be named"
  | tableParameters => "table types cannot have generic parameters"
  | noFields => "table types must have at least one field"
  | repeatedTable => "duplicate `table` attribute"
  | tableForm => "expected `table = \"table_name\"`"
  | emptyTable => "table name must not be empty"
  | repeatedKey => "duplicate #[key] attribute"
  | keyForm => "expected `#[key]`"
  | severalKeys => "only one field may be marked #[key]"
  | repeatedColumnAttribute => "duplicate #[column] attribute"
  | columnWithoutArguments => "expected attribute arguments in parentheses: #[column(...)]"
  | columnWithValue => "expected parentheses: #[column(...)]"
  | columnItem atEnd => expectedAt atEnd "string literal or `type`"
  | repeatedColumnName => "duplicate column name"
  | emptyColumnName => "column name must not be empty"
  | repeatedColumnType => "duplicate column type"
  | missingEquals => "expected `=`"
  | columnType atEnd =>
    expectedAt atEnd
      "one of: `int`, `float`, `text`, `boolean`, `datetime`, `guid`, `blob`, `enum`"
  | missingComma => "expected `,`"
  | duplicateColumn name => s!"duplicate column `{name}`"
  | enumerationParameters => "enum types cannot have generic parameters"
  | noVariants => "enum types must have at least one variant"
  | variantFields => "enum variants stored in a column cannot have fields"
  | valueExpected atEnd => expectedAt atEnd "an expression"
  | bodyExpected => expectedAt true "curly braces"
  | closureExpected => "expected `|`"
  | bracketsExpected => expectedAt true "square brackets"

end Fault

end TableQuery.Declaration
