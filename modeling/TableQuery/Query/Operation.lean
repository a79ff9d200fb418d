import TableQuery.Expr.Basic

/-!
# Operations

A query is built by a sequence of operations.  An operation has the name of a method and arguments;
recording one never fails, and its name and arguments are checked when it is applied.
-/

namespace TableQuery

/-- One step of a query. -/
structure Operation where
  method : String
  args : List Expr

/-- What a method does to a query. -/
inductive Method where
  | filter
  | order (ascending : Bool)
  | skip
  | take
  | select
  | distinct
  | close (terminal : Terminal)

/-- The name of a method. -/
def Method.name : Method → String
  | .filter => "Where"
  | .order true => "OrderBy"
  | .order false => "OrderByDescending"
  | .skip => "Skip"
  | .take => "Take"
  | .select => "Select"
  | .distinct => "Distinct"
  | .close terminal => terminal.name

/-- The names an operation may have, with what they mean, in the order in which messages list them.
A further sort key is added like the first one. -/
def Method.table : List (String × Method) :=
  [("Where", .filter), ("OrderBy", .order true), ("OrderByDescending", .order false),
    ("ThenBy", .order true), ("ThenByDescending", .order false), ("Skip", .skip), ("Take", .take),
    ("Select", .select), ("Distinct", .distinct)] ++
    Terminal.closing.map fun t => (t.name, .close t)

/-- The method with a given name. -/
def Method.ofName? (name : String) : Option Method := Method.table.lookup name

namespace Operation

/-- An operation as shown to a reader: its name and the number of its arguments. -/
def display (o : Operation) : String :=
  let count := o.args.length
  s!"{o.method}/{count}"

end Operation

end TableQuery
