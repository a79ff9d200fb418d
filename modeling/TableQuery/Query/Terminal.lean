/-!
# Terminals

A terminal says what becomes of the rows of a query: all of them, their number, the first, the only
or the last one, or whether there is any.
-/

namespace TableQuery

/-- What becomes of the rows of a query. -/
inductive Terminal where
  | sequence
  | count
  | longCount
  | first
  | firstOrDefault
  | single
  | singleOrDefault
  | last
  | lastOrDefault
  | any
  deriving DecidableEq, Repr

namespace Terminal

/-- The terminals that end a query, so all but the whole sequence. -/
def closing : List Terminal :=
  [count, longCount, first, firstOrDefault, single, singleOrDefault, last, lastOrDefault, any]

/-- The name of a terminal. -/
def name : Terminal → String
  | sequence => "Sequence"
  | count => "Count"
  | longCount => "LongCount"
  | first => "First"
  | firstOrDefault => "FirstOrDefault"
  | single => "Single"
  | singleOrDefault => "SingleOrDefault"
  | last => "Last"
  | lastOrDefault => "LastOrDefault"
  | any => "Any"

/-- The terminal with a given name. -/
def ofName? (s : String) : Option Terminal := (sequence :: closing).find? (fun t => t.name == s)

/-- Whether every row is wanted. -/
def isSequence (t : Terminal) : Bool := t == sequence

/-- Whether the number of rows is wanted. -/
def isCount (t : Terminal) : Bool := t == count || t == longCount

/-- Whether the rows are read from the end. -/
def isLast (t : Terminal) : Bool := t == last || t == lastOrDefault

/-- The row limit a terminal brings with it.  Two rows are enough to tell one from several. -/
def implicitTake : Terminal → Option Nat
  | first | firstOrDefault | last | lastOrDefault | any => some 1
  | single | singleOrDefault => some 2
  | sequence | count | longCount => none

end Terminal

end TableQuery
