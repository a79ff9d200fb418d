import TableQuery.Calendar.DateTime
import TableQuery.ColumnType
import TableQuery.Guid
import TableQuery.Number.Binary

/-!
# Values

The values that stand in expressions and are bound to the parameters of a statement.
-/

namespace TableQuery

/-- A literal value. -/
inductive Value where
  | null
  | bool (b : Bool)
  | int (n : Int64)
  | float (x : Float)
  | text (s : String)
  | dateTime (t : Calendar.DateTime)
  | guid (g : Guid)
  | blob (bytes : List UInt8)
  | enum (n : Int64)

namespace Value

/-- Whether a value is null. -/
def isNull : Value → Bool
  | null => true
  | _ => false

/-- Those of several values that are not null. -/
def present (vs : List Value) : List Value := vs.filter fun v => !v.isNull

/-- The storage class of a value; null fits every nullable column and has none. -/
def type? : Value → Option ColumnType
  | null => none
  | bool _ => some .bool
  | int _ => some .int
  | float _ => some .float
  | text _ => some .text
  | dateTime _ => some .dateTime
  | guid _ => some .guid
  | blob _ => some .blob
  | enum _ => some .enum

/-- What a value is called in messages. -/
def kindName (v : Value) : String := ColumnType.kindName v.type?

/-- The truth value. -/
def bool? : Value → Option Bool
  | bool b => some b
  | _ => none

/-- The integer; that of an enumeration is its discriminant. -/
def int? : Value → Option Int64
  | int n | enum n => some n
  | _ => none

/-- The number as a float. -/
def float? : Value → Option Float
  | float x => some x
  | int n | enum n => some (Number.floatOfInt n.toInt)
  | _ => none

/-- The text. -/
def text? : Value → Option String
  | text s => some s
  | _ => none

/-- The order of two floats; those that are not numbers have none. -/
def compareFloats (x y : Float) : Option Ordering :=
  if x < y then some .lt else if x == y then some .eq else if y < x then some .gt else none

/-- The order of two byte strings by their first difference; a beginning comes before the whole. -/
def compareBytes : List UInt8 → List UInt8 → Ordering
  | [], [] => .eq
  | [], _ :: _ => .lt
  | _ :: _, [] => .gt
  | x :: xs, y :: ys => (compare x.toNat y.toNat).then (compareBytes xs ys)

/-- The order of two values of comparable kinds.  Integers and floats compare as numbers; null
compares with nothing. -/
def compare? : Value → Value → Option Ordering
  | int a, int b | int a, enum b | enum a, int b | enum a, enum b => some (compare a.toInt b.toInt)
  | float x, w => do compareFloats x (← w.float?)
  | v, float y => do compareFloats (← v.float?) y
  | bool a, bool b => some (compare a.toNat b.toNat)
  | text a, text b => some (compare a b)
  | dateTime a, dateTime b => some (a.compare b)
  | guid a, guid b => some (compareDigits a.digits b.digits)
  | blob a, blob b => some (compareBytes a b)
  | _, _ => none
where
  /-- The order of two digit strings of equal length. -/
  compareDigits : List (Fin 16) → List (Fin 16) → Ordering
    | x :: xs, y :: ys => (compare x.val y.val).then (compareDigits xs ys)
    | _, _ => .eq

end Value

end TableQuery
