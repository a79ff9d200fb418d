import TableQuery.Typed.Term

/-!
# Methods of terms and drafts

The methods by which terms and drafts are written.  Each is one of a few ways of building a term or
of recording a step, with an operator, a function or a method of its own.  A column has the methods
of its term.
-/

namespace TableQuery

namespace Term

variable (x y z : Term)

/-- The call of a function with a receiver and further arguments. -/
def calling (func : Func) (args : List Term) : Term := call func (x :: args)

section Comparisons

/-- Whether the two are equal. -/
def eq : Term := binary .equal x y

/-- Whether the two are not equal. -/
def ne : Term := binary .notEqual x y

/-- Whether the receiver is greater. -/
def gt : Term := binary .greaterThan x y

/-- Whether the receiver is greater or the two are equal. -/
def ge : Term := binary .greaterThanOrEqual x y

/-- Whether the receiver is less. -/
def lt : Term := binary .lessThan x y

/-- Whether the receiver is less or the two are equal. -/
def le : Term := binary .lessThanOrEqual x y

/-- Whether a term is null. -/
def isNull : Term := binary .equal x (literal .null)

/-- Whether a term is not null. -/
def isNotNull : Term := binary .notEqual x (literal .null)

/-- The receiver, or the argument where the receiver is null. -/
def unwrapOr : Term := binary .coalesce x y

/-- The value in another storage class. -/
def convertTo (ty : ColumnType) : Term := x.calling (.convertTo ty) []

end Comparisons

section Tests

/-- Whether both tests hold. -/
def and : Term := binary .and x y

/-- Whether one of the tests holds. -/
def or : Term := binary .or x y

/-- Whether a test does not hold. -/
def not : Term := unary .not x

/-- The conjunction of several tests; that of none is true. -/
def andAll : List Term → Term
  | [] => literal (.bool true)
  | x :: xs => xs.foldl and x

end Tests

section Texts

/-- Whether a text holds another. -/
def contains : Term := x.calling .contains [y]

/-- Whether a text begins with another. -/
def startsWith : Term := x.calling .startsWith [y]

/-- Whether a text begins with another, ignoring case. -/
def startsWithIgnoreCase : Term := x.calling .startsWithIgnoreCase [y]

/-- Whether a text ends with another. -/
def endsWith : Term := x.calling .endsWith [y]

/-- Whether a text ends with another, ignoring case. -/
def endsWithIgnoreCase : Term := x.calling .endsWithIgnoreCase [y]

/-- The text with another in place of each of its parts that is a given one. -/
def replace : Term := x.calling .replace [y, z]

/-- The text in lower case. -/
def toLower : Term := x.calling .toLower []

/-- The text in upper case. -/
def toUpper : Term := x.calling .toUpper []

/-- The text without the white space around it. -/
def trim : Term := x.calling .trim []

/-- The text without the white space before it. -/
def trimStart : Term := x.calling .trimStart []

/-- The text without the white space after it. -/
def trimEnd : Term := x.calling .trimEnd []

/-- The characters from a place counted from zero. -/
def substring : Term := x.calling .substring [y]

/-- As many characters as given from a place counted from zero. -/
def substringLength : Term := x.calling .substring [y, z]

/-- The place of a text in another, counted from zero. -/
def indexOf : Term := x.calling .indexOf [y]

/-- The number of characters. -/
def length : Term := x.calling .length []

/-- Whether a text is null or empty. -/
def isNullOrEmpty : Term := x.calling .isNullOrEmpty []

/-- Whether a text is null or nothing but white space. -/
def isNullOrWhiteSpace : Term := x.calling .isNullOrWhiteSpace []

/-- One text after another. -/
def concat : Term := x.calling .concat [y]

end Texts

section Numbers

/-- The sum. -/
def add : Term := binary .add x y

/-- The difference. -/
def sub : Term := binary .subtract x y

/-- The product. -/
def mul : Term := binary .multiply x y

/-- The quotient. -/
def div : Term := binary .divide x y

/-- The remainder. -/
def rem : Term := binary .modulo x y

/-- The number with its sign changed. -/
def neg : Term := unary .negate x

/-- The bits that both integers have. -/
def bitAnd : Term := binary .bitwiseAnd x y

/-- The bits that one of the integers has. -/
def bitOr : Term := binary .bitwiseOr x y

/-- The bits in which two integers differ. -/
def bitXor : Term := binary .exclusiveOr x y

/-- The bits that an integer does not have. -/
def bitNot : Term := unary .bitwiseNot x

/-- The number without its sign. -/
def abs : Term := x.calling .abs []

/-- The nearest integer. -/
def round : Term := x.calling .round []

/-- The nearest number with as many digits after the point as given. -/
def roundTo : Term := x.calling .round [y]

/-- The nearest integer that is not greater. -/
def floor : Term := x.calling .floor []

/-- The nearest integer that is not less. -/
def ceiling : Term := x.calling .ceiling []

/-- The greater of two numbers. -/
def max : Term := x.calling .max [y]

/-- The lesser of two numbers. -/
def min : Term := x.calling .min [y]

/-- A power. -/
def pow : Term := x.calling .pow [y]

/-- The square root. -/
def sqrt : Term := x.calling .sqrt []

/-- The natural logarithm. -/
def ln : Term := x.calling .log []

/-- The common logarithm. -/
def log10 : Term := x.calling .log10 []

end Numbers

section Dates

/-- The year. -/
def year : Term := x.calling .year []

/-- The month of the year. -/
def month : Term := x.calling .month []

/-- The day of the month. -/
def day : Term := x.calling .day []

/-- The hour of the day. -/
def hour : Term := x.calling .hour []

/-- The minute of the hour. -/
def minute : Term := x.calling .minute []

/-- The second of the minute. -/
def second : Term := x.calling .second []

/-- The midnight at which the day begins. -/
def date : Term := x.calling .date []

/-- The day of the week, counted from zero on Sunday. -/
def dayOfWeek : Term := x.calling .dayOfWeek []

/-- So many years later. -/
def addYears : Term := x.calling .addYears [y]

/-- So many months later. -/
def addMonths : Term := x.calling .addMonths [y]

/-- So many days later. -/
def addDays : Term := x.calling .addDays [y]

/-- So many hours later. -/
def addHours : Term := x.calling .addHours [y]

/-- So many minutes later. -/
def addMinutes : Term := x.calling .addMinutes [y]

/-- So many seconds later. -/
def addSeconds : Term := x.calling .addSeconds [y]

/-- The local time of the server. -/
def now : Term := call .now []

/-- The time of the server in UTC. -/
def utcNow : Term := call .utcNow []

end Dates

end Term

namespace Draft

variable (q : Draft) (ref : ColumnRef) (condition amount : Term)

/-- The rows that satisfy a condition. -/
def filter : Draft := q.push .filter [condition]

/-- The rows in the order of a column. -/
def orderBy : Draft := q.push (.order true) [.path ref]

/-- The rows in the reverse order of a column. -/
def orderByDescending : Draft := q.push (.order false) [.path ref]

/-- The rows in the order of a further column where those before it do not tell. -/
def thenBy : Draft := q.apply "ThenBy" [.path ref]

/-- The rows in the reverse order of a further column where those before it do not tell. -/
def thenByDescending : Draft := q.apply "ThenByDescending" [.path ref]

/-- The rows after the first so many. -/
def skip : Draft := q.push .skip [amount]

/-- The first so many rows. -/
def take : Draft := q.push .take [amount]

/-- The given columns of the rows. -/
def select (refs : List ColumnRef) : Draft := q.push .select (refs.map .path)

/-- The rows that are different. -/
def distinct : Draft := q.push .distinct []

section Terminals

/-- What a terminal asks for among all rows. -/
def close (terminal : Terminal) : Draft := q.push (.close terminal) []

/-- What a terminal asks for among the rows that satisfy a condition. -/
def closeWhere (terminal : Terminal) : Draft := q.push (.close terminal) [condition]

/-- The number of rows. -/
def count : Draft := q.close .count

/-- The number of rows that satisfy a condition. -/
def countWhere : Draft := q.closeWhere condition .count

/-- The number of rows, as a long integer. -/
def longCount : Draft := q.close .longCount

/-- The number of rows that satisfy a condition, as a long integer. -/
def longCountWhere : Draft := q.closeWhere condition .longCount

/-- The first row. -/
def first : Draft := q.close .first

/-- The first row that satisfies a condition. -/
def firstWhere : Draft := q.closeWhere condition .first

/-- The first row, if there is one. -/
def firstOrDefault : Draft := q.close .firstOrDefault

/-- The first row that satisfies a condition, if there is one. -/
def firstOrDefaultWhere : Draft := q.closeWhere condition .firstOrDefault

/-- The only row. -/
def single : Draft := q.close .single

/-- The only row that satisfies a condition. -/
def singleWhere : Draft := q.closeWhere condition .single

/-- The only row, if there is one. -/
def singleOrDefault : Draft := q.close .singleOrDefault

/-- The only row that satisfies a condition, if there is one. -/
def singleOrDefaultWhere : Draft := q.closeWhere condition .singleOrDefault

/-- The last row. -/
def last : Draft := q.close .last

/-- The last row that satisfies a condition. -/
def lastWhere : Draft := q.closeWhere condition .last

/-- The last row, if there is one. -/
def lastOrDefault : Draft := q.close .lastOrDefault

/-- The last row that satisfies a condition, if there is one. -/
def lastOrDefaultWhere : Draft := q.closeWhere condition .lastOrDefault

/-- Whether there is a row. -/
def any : Draft := q.close .any

/-- Whether there is a row that satisfies a condition. -/
def anyWhere : Draft := q.closeWhere condition .any

end Terminals

end Draft

end TableQuery
