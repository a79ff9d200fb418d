import TableQuery.Error
import TableQuery.Number.FloatText
import TableQuery.Number.Shortest
import TableQuery.Text.Case
import TableQuery.Value
import TableQuery.Value.Formats

/-!
# Conversions between storage classes

Conversion of a value to another storage class.  Text is read and written by the formats of the
classes, white space around it does not count, and null converts to null.  The formats of dates and
times and of identifiers are those of libraries; unless others are given, they are the standard
ones.
-/

namespace TableQuery.Value

open Number

/-- The error that a value has no counterpart in a class. -/
def noConversion (v : Value) (ty : ColumnType) : Error :=
  .evaluationFailed (.conversion v.type? ty)

/-- The characters of a text without the white space around it. -/
def trimmed (s : String) : List Char := (Text.trim s).toList

/-- The text of a truth value. -/
def boolText (b : Bool) : String := if b then "true" else "false"

/-- Reads a truth value, in any letter case. -/
def readBool (s : String) : Option Bool :=
  let word := Text.toAsciiLower s
  if word = "true" then some true else if word = "false" then some false else none

/-- The integer that a value converts to. -/
def toInt? : Value → Option Int64
  | int n | enum n => some n
  | float x => (finite? x).map fun b => saturate b.truncate
  | bool b => some (if b then 1 else 0)
  | text s => readInt64 (trimmed s)
  | _ => none

/-- The float that a value converts to. -/
def toFloat? : Value → Option Float
  | int n | enum n => some (floatOfInt n.toInt)
  | float x => some x
  | bool b => some (if b then 1.0 else 0.0)
  | text s => readFloat (trimmed s)
  | _ => none

/-- The text that a value converts to. -/
def toText? (v : Value) (formats : Formats := .standard) : Option String :=
  match v with
  | text s => some s
  | int n | enum n => some (String.ofList (intText n.toInt))
  | float x => some (String.ofList (floatText x))
  | bool b => some (boolText b)
  | dateTime t => some (String.ofList (formats.writeDateTime t))
  | guid g => some (String.ofList (formats.writeGuid g))
  | _ => none

/-- The truth value that a value converts to. -/
def toBool? : Value → Option Bool
  | bool b => some b
  | int n => some (n != 0)
  | text s => readBool (Text.trim s)
  | _ => none

/-- The date and time that a value converts to. -/
def toDateTime? (v : Value) (formats : Formats := .standard) : Option Calendar.DateTime :=
  match v with
  | dateTime t => some t
  | text s => formats.readDateTime (trimmed s) <|> formats.readTimestamp (trimmed s)
  | _ => none

/-- The bytes that a value converts to. -/
def toBlob? : Value → Option (List UInt8)
  | blob bytes => some bytes
  | _ => none

/-- The discriminant that a value converts to. -/
def toEnum? : Value → Option Int64
  | int n | enum n => some n
  | _ => none

/-- The identifier that a value converts to; a text says itself what is wrong with it. -/
def toGuid (v : Value) (formats : Formats := .standard) : Except Error Guid :=
  match v with
  | guid g => .ok g
  | text s =>
    match formats.readGuid (trimmed s) with
    | .ok g => .ok g
    | .error fault => .error { cause := .guid fault }
  | v => .error (v.noConversion .guid)

/-- The value converted to a storage class. -/
def cast (v : Value) (ty : ColumnType) (formats : Formats := .standard) : Except Error Value :=
  let found {α : Type} (x : Option α) (make : α → Value) : Except Error Value :=
    match x with
    | some a => .ok (make a)
    | none => .error (v.noConversion ty)
  if v.isNull then .ok .null
  else
    match ty with
    | .int => found v.toInt? .int
    | .float => found v.toFloat? .float
    | .text => found (v.toText? formats) .text
    | .bool => found v.toBool? .bool
    | .dateTime => found (v.toDateTime? formats) .dateTime
    | .guid => (v.toGuid formats).map .guid
    | .blob => found v.toBlob? .blob
    | .enum => found v.toEnum? .enum

end TableQuery.Value
