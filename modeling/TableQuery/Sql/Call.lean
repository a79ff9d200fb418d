import TableQuery.Expr.Fold
import TableQuery.Sql.Emit
import TableQuery.Sql.Scope

/-!
# Calls

The form that each function takes in each dialect.  Where a dialect has no function of that kind,
the call is written out with others, and an argument may then occur several times.  A call with the
wrong number of arguments has no form.
-/

namespace TableQuery.Sql

/-- An argument of a call: the expression, and its form as a value. -/
structure Argument where
  expr : Expr
  scalar : Emit Scalar

/-- The value of a constant expression.  Whatever keeps it from having one, the expression then has
no SQL form. -/
def constant (e : Expr) : Except Error Value :=
  match e.fold with
  | .ok v => .ok v
  | .error err => .error (err.context (.unsupportedExpression (.constant e.describe)))

/-- A value in a statement: null is written out, any other value is bound. -/
def literal (v : Value) : Emit Scalar :=
  if v.isNull then ⟨[], .ok .null⟩ else ⟨[v], .ok (.param v)⟩

/-- The condition that always or never holds. -/
def truth (b : Bool) : Cond := .paren (.compare .equal (.number 1) (.number (if b then 1 else 0)))

/-- A value of one operator in parentheses. -/
def grouped (op : BinaryOp) (l r : Scalar) : Scalar := .paren (.operator op l r)

/-- A comparison in parentheses. -/
def compared (op : BinaryOp) (l r : Scalar) : Cond := .paren (.compare op l r)

/-- A choice in parentheses. -/
def chosen (test : Cond) (yes no : Scalar) : Scalar := .paren (.case test yes no)

/-- A conversion to the type of a storage class. -/
def castTo (d : Dialect) (ty : ColumnType) (x : Emit Scalar) : Emit Scalar :=
  match TypeName.of? d ty with
  | some name => do return .cast (← x) name
  | none => .fail (.unsupportedExpression (.conversion ty d))

namespace Call

/-- The text of a pattern, if the pattern is constant. -/
def constantText? (func : Func) (e : Expr) : Emit (Option String) :=
  if e.isConst then do
    match ← Emit.lift (constant e) with
    | .text s => return some s
    | .null => Emit.fail (.invalidArgument (.nullPattern func))
    | v => Emit.fail (.unsupportedExpression (.patternKind func v.type?))
  else return none

/-- The test that a text occurs in another. -/
def contains (d : Dialect) (x needle : Emit Scalar) : Emit Cond := do
  if d.isSqlServer then
    let n ← needle
    return compared .greaterThan (.call .charIndex [n, ← x]) (.number 0)
  else
    return compared .greaterThan (.call .position [← x, ← needle]) (.number 0)

/-- The place of a text in another, counted from zero. -/
def indexOf (d : Dialect) (x needle : Emit Scalar) : Emit Scalar := do
  if d.isSqlServer then
    let n ← needle
    return grouped .subtract (.call .charIndex [n, ← x]) (.number 1)
  else
    return grouped .subtract (.call .position [← x, ← needle]) (.number 1)

/-- The test that a text begins with another: that its first characters are the other text. -/
def startsWith (func : Func) (x pattern : Argument) : Emit Cond := do
  match ← constantText? func pattern.expr with
  | some s =>
    let start := Scalar.call .substring [← x.scalar, .number 1, .number s.length]
    return compared .equal start (← literal (.text s))
  | none =>
    let text ← x.scalar
    let length := Scalar.call .length [← pattern.scalar]
    return compared .equal (.call .substring [text, .number 1, length]) (← pattern.scalar)

/-- The last characters of a text, where the dialect has a function for them. -/
def suffix (text length : Scalar) : Scalar := .call .suffix [text, length]

/-- The test that a text ends with another: that its last characters are the other text.  Every text
ends with the empty one. -/
def endsWith (d : Dialect) (func : Func) (x pattern : Argument) : Emit Cond := do
  match ← constantText? func pattern.expr with
  | some s =>
    if s.isEmpty then return truth true
    else
      let text ← x.scalar
      let length := Scalar.number s.length
      let last := match d with
        | .sqlite => Scalar.call .substring [text, .negate length]
        | _ => suffix text length
      return compared .equal last (← literal (.text s))
  | none =>
    let text ← x.scalar
    let length := Scalar.call .length [← pattern.scalar]
    let last ← match d with
      | .sqlite => do
        let count := Scalar.call .length [← pattern.scalar]
        pure (Scalar.call .substring [text, .negate length, count])
      | _ => pure (suffix text length)
    return compared .equal last (← pattern.scalar)

/-- The characters that have a meaning in patterns. -/
def wildcards (d : Dialect) : List Char :=
  if d.isSqlServer then ['\\', '%', '_', '['] else ['\\', '%', '_']

/-- The characters of a text with a backslash before each that has a meaning in patterns. -/
def escaped (d : Dialect) : List Char → List Char
  | [] => []
  | c :: cs => if c ∈ wildcards d then '\\' :: c :: escaped d cs else c :: escaped d cs

/-- A value with the same escapes, as the server computes them: the backslash is escaped first. -/
def escapedByServer (d : Dialect) (x : Scalar) : Scalar :=
  (wildcards d).foldl (fun x c =>
    .call .replace [x, .text (String.ofList [c]), .text (String.ofList ['\\', c])]) x

/-- The test that a text begins or ends with another, ignoring case. -/
def like (d : Dialect) (func : Func) (atStart : Bool) (x pattern : Argument) : Emit Cond := do
  match ← constantText? func pattern.expr with
  | some s =>
    let body := escaped d s.toList
    let pattern := if atStart then body ++ ['%'] else '%' :: body
    let text ← x.scalar
    return .paren (.like text (← literal (.text (String.ofList pattern))) (body != s.toList))
  | none =>
    let text ← x.scalar
    let body := escapedByServer d (← pattern.scalar)
    let pattern :=
      if atStart then Scalar.concat body (.text "%") else Scalar.concat (.text "%") body
    return .paren (.like text (.paren pattern) true)

/-- A place counted from zero as one counted from one. -/
def placeFromOne (start : Argument) : Emit Scalar :=
  if start.expr.isConst then do
    match ← Emit.lift (constant start.expr) with
    | .int n =>
      match Number.int64? (n.toInt + 1) with
      | some m => literal (.int m)
      | none => Emit.fail (.invalidArgument (.substringRange n.toInt))
    | v => Emit.fail (.invalidArgument (.substringKind v.type?))
  else do return grouped .add (← start.scalar) (.number 1)

/-- The part of a text from a place counted from zero.  SQL Server wants a length, for which that of
the whole text will do. -/
def substring (d : Dialect) (x start : Argument) (length : Option Argument) : Emit Scalar := do
  let text ← x.scalar
  let first ← placeFromOne start
  match length with
  | some n => return .call .substring [text, first, ← n.scalar]
  | none =>
    if d.isSqlServer then
      return .call .substring [text, first, .call .length [← x.scalar]]
    else return .call .substring [text, first]

/-- The nearest integer on one side.  SQLite has no function for it: the value is compared with what
is left of it without its fraction. -/
def roundToward (d : Dialect) (up : Bool) (x : Emit Scalar) : Emit Scalar := do
  match d with
  | .sqlite =>
    let whole : Emit Scalar := do return .cast (← x) .integer
    let value ← x
    let test := Cond.compare (if up then .greaterThan else .lessThan) value (← whole)
    let beyond := Scalar.operator (if up then .add else .subtract) (← whole) (.number 1)
    return chosen test beyond (← whole)
  | _ => return .call (if up then .ceiling else .floor) [← x]

/-- The larger or the smaller of two numbers.  SQL Server has no function for it. -/
def extremum (d : Dialect) (larger : Bool) (x y : Emit Scalar) : Emit Scalar := do
  if d.isSqlServer then
    let left ← x
    let test := Cond.compare (if larger then .greaterThanOrEqual else .lessThanOrEqual) left (← y)
    let yes ← x
    return chosen test yes (← y)
  else
    let left ← x
    return .call (if larger then .greatest else .least) [left, ← y]

/-- A part of a date and time. -/
def datePart (d : Dialect) (f : DateField) (x : Emit Scalar) : Emit Scalar := do
  match d with
  | .sqlite => return .cast (.call .formatTime [.text f.code, ← x]) .integer
  | .sqlServer => return .datePart f (← x)
  | .postgreSql =>
    let part := Scalar.extract f (← x)
    return .cast (if f = .second then .call .wholeSeconds [part] else part) .integer

/-- A date and time moved by an amount. -/
def dateAdd (d : Dialect) (f : DateField) (x amount : Emit Scalar) : Emit Scalar := do
  match d with
  | .sqlite =>
    let time ← x
    return .call .civilTime [time, .paren (.concat (← amount) (.text (" " ++ f.unit)))]
  | .postgreSql =>
    let time ← x
    return grouped .add time (.interval f (← amount))
  | .sqlServer =>
    let n ← amount
    return .dateAdd f n (← x)

/-- The day of a date and time, at midnight. -/
def dayOf (d : Dialect) (x : Emit Scalar) : Emit Scalar := do
  match d with
  | .sqlite => return .call .civilTime [.call .civilDate [← x]]
  | .postgreSql => return .call .truncateTime [.text "day", ← x]
  | .sqlServer => return .cast (.cast (← x) .date) .dateTime

/-- The day of the week, where Sunday is zero. -/
def dayOfWeek (d : Dialect) (x : Emit Scalar) : Emit Scalar := do
  match d with
  | .sqlite => return .cast (.call .formatTime [.text "%w", ← x]) .integer
  | .postgreSql => return .cast (.extractWeekday (← x)) .integer
  | .sqlServer =>
    let shifted := Scalar.operator .add (.datePartWeekday (← x)) .dateFirst
    return grouped .modulo (grouped .subtract shifted (.number 1)) (.number 7)

/-- The local time of the server. -/
def localNow : Dialect → Scalar
  | .sqlite => .call .civilTime [.text "now", .text "localtime"]
  | .postgreSql => .localTimestamp
  | .sqlServer => .call .localNow []

/-- The time of the server in UTC. -/
def universalNow : Dialect → Scalar
  | .sqlite => .call .civilTime [.text "now"]
  | .postgreSql => .paren (.atTimeZone (.call .now []) "utc")
  | .sqlServer => .call .universalNow []

/-- A value without the white space around it. -/
def trimmed (d : Dialect) (x : Scalar) : Scalar :=
  if d.isSqlServer then .call .trimStart [.call .trimEnd [x]] else .call .trim [x]

/-- A call of a function that all dialects have. -/
def plain (r : Routine) (args : List Argument) : Emit Scalar := do
  return .call r (← sequence args)
where
  /-- The arguments as values, in order. -/
  sequence : List Argument → Emit (List Scalar)
    | [] => .done []
    | a :: as => do
      let x ← a.scalar
      return x :: (← sequence as)

/-- The error that a call has the wrong number of arguments. -/
def wrongArity (func : Func) (args : List Argument) : Error :=
  .invalidArgument (.callArity func args.length)

/-- The condition that a call of a test becomes. -/
def condition (d : Dialect) (func : Func) (args : List Argument) : Emit Cond :=
  match func, args with
  | .contains, [x, needle] => contains d x.scalar needle.scalar
  | .startsWith, [x, pattern] => startsWith func x pattern
  | .endsWith, [x, pattern] => endsWith d func x pattern
  | .startsWithIgnoreCase, [x, pattern] => like d func true x pattern
  | .endsWithIgnoreCase, [x, pattern] => like d func false x pattern
  | .isNullOrEmpty, [x] => do
    let left := Cond.isNull (← x.scalar)
    return .paren (.or left (.compare .equal (← x.scalar) (.text "")))
  | .isNullOrWhiteSpace, [x] => do
    let left := Cond.isNull (← x.scalar)
    return .paren (.or left (.compare .equal (trimmed d (← x.scalar)) (.text "")))
  | _, _ => .fail (wrongArity func args)

/-- The value that any other call becomes. -/
def scalar (d : Dialect) (func : Func) (args : List Argument) : Emit Scalar :=
  match func, args with
  | .replace, [_, _, _] => plain .replace args
  | .toLower, [_] => plain .lower args
  | .toUpper, [_] => plain .upper args
  | .trim, [x] => do return trimmed d (← x.scalar)
  | .trimStart, [_] => plain .trimStart args
  | .trimEnd, [_] => plain .trimEnd args
  | .substring, [x, start] => substring d x start none
  | .substring, [x, start, length] => substring d x start (some length)
  | .indexOf, [x, needle] => indexOf d x.scalar needle.scalar
  | .length, [_] => plain .length args
  | .concat, [x, y] => do
    let left ← x.scalar
    return .paren (.concat left (← y.scalar))
  | .abs, [_] => plain .abs args
  | .round, [x] => do
    let value ← x.scalar
    return .call .round (if d.isSqlServer then [value, .number 0] else [value])
  | .round, [_, _] => plain .round args
  | .floor, [x] => roundToward d false x.scalar
  | .ceiling, [x] => roundToward d true x.scalar
  | .max, [x, y] => extremum d true x.scalar y.scalar
  | .min, [x, y] => extremum d false x.scalar y.scalar
  | .pow, [_, _] => plain .power args
  | .sqrt, [_] => plain .squareRoot args
  | .log, [_] => plain .naturalLog args
  | .log10, [_] => plain .decimalLog args
  | .convertTo ty, [x] => castTo d ty x.scalar
  | .year, [x] => datePart d .year x.scalar
  | .month, [x] => datePart d .month x.scalar
  | .day, [x] => datePart d .day x.scalar
  | .hour, [x] => datePart d .hour x.scalar
  | .minute, [x] => datePart d .minute x.scalar
  | .second, [x] => datePart d .second x.scalar
  | .date, [x] => dayOf d x.scalar
  | .dayOfWeek, [x] => dayOfWeek d x.scalar
  | .addYears, [x, n] => dateAdd d .year x.scalar n.scalar
  | .addMonths, [x, n] => dateAdd d .month x.scalar n.scalar
  | .addDays, [x, n] => dateAdd d .day x.scalar n.scalar
  | .addHours, [x, n] => dateAdd d .hour x.scalar n.scalar
  | .addMinutes, [x, n] => dateAdd d .minute x.scalar n.scalar
  | .addSeconds, [x, n] => dateAdd d .second x.scalar n.scalar
  | .now, [] => .done (localNow d)
  | .utcNow, [] => .done (universalNow d)
  | _, _ => .fail (wrongArity func args)

end Call

end TableQuery.Sql
