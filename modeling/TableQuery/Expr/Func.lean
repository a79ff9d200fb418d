import TableQuery.ColumnType

/-!
# Functions

The functions a query expression may call.  The first argument of a call is its receiver.  For each
function this module gives the number of arguments, the class of the result, and whether a call with
constant arguments can be evaluated without a database.
-/

namespace TableQuery

/-- A function of query expressions. -/
inductive Func where
  | contains
  | startsWith
  | startsWithIgnoreCase
  | endsWith
  | endsWithIgnoreCase
  | replace
  | toLower
  | toUpper
  | trim
  | trimStart
  | trimEnd
  | substring
  | indexOf
  | length
  | isNullOrEmpty
  | isNullOrWhiteSpace
  | concat
  | abs
  | round
  | floor
  | ceiling
  | max
  | min
  | pow
  | sqrt
  | log
  | log10
  | convertTo (ty : ColumnType)
  | year
  | month
  | day
  | hour
  | minute
  | second
  | date
  | dayOfWeek
  | addYears
  | addMonths
  | addDays
  | addHours
  | addMinutes
  | addSeconds
  | now
  | utcNow
  deriving DecidableEq, Repr

namespace Func

/-- The name of a function. -/
def name : Func → String
  | contains => "Contains"
  | startsWith => "StartsWith"
  | startsWithIgnoreCase => "StartsWithIgnoreCase"
  | endsWith => "EndsWith"
  | endsWithIgnoreCase => "EndsWithIgnoreCase"
  | replace => "Replace"
  | toLower => "ToLower"
  | toUpper => "ToUpper"
  | trim => "Trim"
  | trimStart => "TrimStart"
  | trimEnd => "TrimEnd"
  | substring => "Substring"
  | indexOf => "IndexOf"
  | length => "Length"
  | isNullOrEmpty => "IsNullOrEmpty"
  | isNullOrWhiteSpace => "IsNullOrWhiteSpace"
  | concat => "Concat"
  | abs => "Abs"
  | round => "Round"
  | floor => "Floor"
  | ceiling => "Ceiling"
  | max => "Max"
  | min => "Min"
  | pow => "Pow"
  | sqrt => "Sqrt"
  | log => "Log"
  | log10 => "Log10"
  | convertTo _ => "ConvertTo"
  | year => "Year"
  | month => "Month"
  | day => "Day"
  | hour => "Hour"
  | minute => "Minute"
  | second => "Second"
  | date => "Date"
  | dayOfWeek => "DayOfWeek"
  | addYears => "AddYears"
  | addMonths => "AddMonths"
  | addDays => "AddDays"
  | addHours => "AddHours"
  | addMinutes => "AddMinutes"
  | addSeconds => "AddSeconds"
  | now => "Now"
  | utcNow => "UtcNow"

/-- The functions that need nothing but their name to be told apart. -/
def plain : List Func :=
  [contains, startsWith, startsWithIgnoreCase, endsWith, endsWithIgnoreCase, replace, toLower,
    toUpper, trim, trimStart, trimEnd, substring, indexOf, length, isNullOrEmpty,
    isNullOrWhiteSpace, concat, abs, round, floor, ceiling, max, min, pow, sqrt, log, log10, year,
    month, day, hour, minute, second, date, dayOfWeek, addYears, addMonths, addDays, addHours,
    addMinutes, addSeconds, now, utcNow]

/-- The function with a given name; a conversion needs its target class too. -/
def ofName? (s : String) (target : Option ColumnType) : Option Func :=
  if s = "ConvertTo" then target.map convertTo else plain.find? (fun f => f.name == s)

/-- A function as shown to a reader: its name, and the target of a conversion. -/
def display : Func → String
  | convertTo ty => s!"ConvertTo({ty.name})"
  | f => f.name

/-- The least and the greatest number of arguments, the receiver included. -/
def arity : Func → Nat × Nat
  | now | utcNow => (0, 0)
  | toLower | toUpper | trim | trimStart | trimEnd | length | isNullOrEmpty | isNullOrWhiteSpace
  | abs | floor | ceiling | sqrt | log | log10 | convertTo _ | year | month | day | hour | minute
  | second | date | dayOfWeek => (1, 1)
  | contains | startsWith | startsWithIgnoreCase | endsWith | endsWithIgnoreCase | indexOf | concat
  | max | min | pow | addYears | addMonths | addDays | addHours | addMinutes | addSeconds => (2, 2)
  | round => (1, 2)
  | substring => (2, 3)
  | replace => (3, 3)

/-- Whether a call with this many arguments is complete. -/
def admits (f : Func) (count : Nat) : Bool := f.arity.1 ≤ count && count ≤ f.arity.2

/-- Whether a call yields a truth value. -/
def isPredicate : Func → Bool
  | contains | startsWith | startsWithIgnoreCase | endsWith | endsWithIgnoreCase | isNullOrEmpty
  | isNullOrWhiteSpace => true
  | _ => false

/-- Whether a call with constant arguments can be evaluated without a database. -/
def isFoldable : Func → Bool
  | toLower | toUpper | trim | trimStart | trimEnd | length | concat => true
  | _ => false

/-- The class of the result, given that of the receiver. -/
def resultType (f : Func) (receiver : Option ColumnType) : Option ColumnType :=
  match f with
  | contains | startsWith | startsWithIgnoreCase | endsWith | endsWithIgnoreCase | isNullOrEmpty
  | isNullOrWhiteSpace => some .bool
  | replace | toLower | toUpper | trim | trimStart | trimEnd | substring | concat => some .text
  | indexOf | length | year | month | day | hour | minute | second | dayOfWeek => some .int
  | sqrt | log | log10 | pow => some .float
  | abs | round | floor | ceiling | max | min => receiver
  | convertTo ty => some ty
  | date | addYears | addMonths | addDays | addHours | addMinutes | addSeconds | now | utcNow =>
    some .dateTime

end Func

end TableQuery
