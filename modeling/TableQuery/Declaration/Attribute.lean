import TableQuery.ColumnType
import TableQuery.Declaration.Fault

/-!
# Attributes of declarations

An attribute has a path and, behind it, nothing, an equals sign and a value, or a list of tokens in
parentheses.  The arguments of a `column` attribute are items with commas between them: the name of
the column as a string, and `type = ` with a word for its storage class, each at most once.
-/

namespace TableQuery.Declaration

/-- A token of an attribute. -/
inductive Token where
  | text (s : String)
  | number (n : Int)
  | word (w : String)
  | mark (c : Char)
  deriving DecidableEq

/-- What stands behind the path of an attribute. -/
inductive Argument where
  | nothing
  | value (t : Token)
  | list (ts : List Token)
  deriving DecidableEq

/-- An attribute of a declaration. -/
structure Attribute where
  path : String
  argument : Argument := .nothing
  deriving DecidableEq

/-- The words that are no value and begin none. -/
def barrenWords : List String :=
  ["abstract", "as", "async", "await", "box", "do", "dyn", "else", "enum", "extern", "final", "fn",
    "impl", "in", "macro", "mod", "mut", "override", "priv", "pub", "ref", "struct", "trait", "try",
    "type", "typeof", "unsized", "use", "virtual", "where"]

/-- Why a token alone is no value of an attribute: it begins none, or one that needs more tokens. -/
def Token.valueFault? : Token → Option Fault
  | .text _ | .number _ => none
  | .word w =>
    if barrenWords.contains w then some (.valueExpected false)
    else if ["become", "if", "match", "while"].contains w then some (.valueExpected true)
    else if ["const", "move", "static"].contains w then some .closureExpected
    else if ["loop", "unsafe"].contains w then some .bodyExpected
    else none
  | .mark c =>
    if ['&', '*', '!', '-'].contains c then some (.valueExpected true)
    else if c = '#' then some .bracketsExpected
    else some (.valueExpected false)

/-- The first fault of attributes whose value is none. -/
def valueFault? (as : List Attribute) : Option Fault :=
  as.findSome? fun a =>
    match a.argument with
    | .value t => t.valueFault?
    | _ => none

/-- The word for a storage class. -/
def storageWord : ColumnType → String
  | .int => "int"
  | .float => "float"
  | .text => "text"
  | .bool => "boolean"
  | .dateTime => "datetime"
  | .guid => "guid"
  | .blob => "blob"
  | .enum => "enum"

/-- The storage class that a word stands for. -/
def ofStorageWord? (w : String) : Option ColumnType :=
  ColumnType.all.find? (fun t => storageWord t == w)

/-- What a `column` attribute says about a column. -/
structure ColumnOptions where
  name : Option String := none
  ty : Option ColumnType := none
  deriving DecidableEq

namespace ColumnOptions

/-- Reads the items of a `column` attribute into what the items before them said. -/
def readItems (o : ColumnOptions) : List Token → Except Fault ColumnOptions
  | [] => .error (.columnItem true)
  | .text s :: rest =>
    if o.name.isSome then .error .repeatedColumnName
    else if s = "" then .error .emptyColumnName
    else
      match rest with
      | [] => .ok { o with name := some s }
      | .mark ',' :: rest => readItems { o with name := some s } rest
      | _ => .error .missingComma
  | .word w :: rest =>
    if w ≠ "type" then .error (.columnItem false)
    else if o.ty.isSome then .error .repeatedColumnType
    else
      match rest with
      | .mark '=' :: .word k :: rest =>
        match ofStorageWord? k with
        | none => .error (.columnType false)
        | some t =>
          match rest with
          | [] => .ok { o with ty := some t }
          | .mark ',' :: rest => readItems { o with ty := some t } rest
          | _ => .error .missingComma
      | [.mark '='] => .error (.columnType true)
      | .mark '=' :: _ => .error (.columnType false)
      | _ => .error .missingEquals
  | _ => .error (.columnItem false)

/-- Reads the argument of a `column` attribute. -/
def read : Argument → Except Fault ColumnOptions
  | .nothing => .error .columnWithoutArguments
  | .value _ => .error .columnWithValue
  | .list ts => readItems {} ts

end ColumnOptions

/-- Reads the argument of a `table` attribute, which is the name of the table. -/
def readTableName : Argument → Except Fault String
  | .value (.text s) => if s = "" then .error .emptyTable else .ok s
  | _ => .error .tableForm

/-- The table name that the attributes of a declaration give; only one of them may do so. -/
def tableName? (found : Option String) : List Attribute → Except Fault (Option String)
  | [] => .ok found
  | a :: rest =>
    if a.path ≠ "table" then tableName? found rest
    else if found.isSome then .error .repeatedTable
    else do tableName? (some (← readTableName a.argument)) rest

end TableQuery.Declaration
