import Mathlib.Tactic.Lemma
import TableQuery.Sql.Call

/-!
# The shapes of calls

There are many functions, and a few shapes that a call of one can take.  Whatever shape it is, it is
that of some arguments, or the arguments are of the wrong number for the function
(`Call.scalar_shape`, `Call.condition_shape`).

Some functions read the value of a constant argument in second place instead of writing its form
(`Func.readsSecond`), and the test for the empty text at the end writes none of its arguments
(`isEmptySuffix`).
-/

namespace TableQuery

/-- Whether a call depends on the value of its second argument if that is constant. -/
def Func.readsSecond : Func → Bool
  | startsWith | startsWithIgnoreCase | endsWith | endsWithIgnoreCase | substring => true
  | _ => false

namespace Sql

/-- Whether a call tests for the empty text at the end of another. -/
def isEmptySuffix (func : Func) (args : List Expr) : Bool :=
  match func, args with
  | .endsWith, [_, pattern] =>
    pattern.isConst &&
      match constant pattern with
      | .ok (.text s) => s.isEmpty
      | _ => false
  | _, _ => false

/-- Only tests for the end of a text leave an argument out. -/
lemma eq_endsWith_of_isEmptySuffix {func : Func} {args : List Expr}
    (h : isEmptySuffix func args = true) : func = .endsWith := by
  unfold isEmptySuffix at h
  split at h
  · rfl
  · cases h

namespace Call

/-- The steps for the value of a call, by the arguments of the call. -/
inductive ScalarShape (d : Dialect) : List Argument → Emit Scalar → Prop where
  | plain {args : List Argument} (r : Routine) : ScalarShape d args (plain r args)
  | trimmed (x : Argument) : ScalarShape d [x] (do return trimmed d (← x.scalar))
  | substring (x start : Argument) : ScalarShape d [x, start] (substring d x start none)
  | substringLength (x start length : Argument) :
    ScalarShape d [x, start, length] (substring d x start (some length))
  | indexOf (x needle : Argument) : ScalarShape d [x, needle] (indexOf d x.scalar needle.scalar)
  | concat (x y : Argument) :
    ScalarShape d [x, y] (do
      let left ← x.scalar
      return .paren (.concat left (← y.scalar)))
  | round (x : Argument) :
    ScalarShape d [x] (do
      let value ← x.scalar
      return .call .round (if d.isSqlServer then [value, .number 0] else [value]))
  | roundToward (up : Bool) (x : Argument) : ScalarShape d [x] (roundToward d up x.scalar)
  | extremum (larger : Bool) (x y : Argument) :
    ScalarShape d [x, y] (extremum d larger x.scalar y.scalar)
  | castTo (ty : ColumnType) (x : Argument) : ScalarShape d [x] (castTo d ty x.scalar)
  | datePart (field : DateField) (x : Argument) : ScalarShape d [x] (datePart d field x.scalar)
  | dayOf (x : Argument) : ScalarShape d [x] (dayOf d x.scalar)
  | dayOfWeek (x : Argument) : ScalarShape d [x] (dayOfWeek d x.scalar)
  | dateAdd (field : DateField) (x n : Argument) :
    ScalarShape d [x, n] (dateAdd d field x.scalar n.scalar)
  | localNow : ScalarShape d [] (.done (localNow d))
  | universalNow : ScalarShape d [] (.done (universalNow d))
  | wrongArity {args : List Argument} (func : Func) :
    ScalarShape d args (.fail (Call.wrongArity func args))

/-- The value of a call has one of these shapes. -/
theorem scalar_shape (d : Dialect) (func : Func) (args : List Argument) :
    ScalarShape d args (scalar d func args) := by
  unfold scalar
  split
  all_goals constructor

/-- The steps for the condition of a call, by the function and the arguments of the call. -/
inductive CondShape (d : Dialect) : Func → List Argument → Emit Cond → Prop where
  | contains (x needle : Argument) :
    CondShape d .contains [x, needle] (contains d x.scalar needle.scalar)
  | startsWith (x pattern : Argument) :
    CondShape d .startsWith [x, pattern] (startsWith .startsWith x pattern)
  | endsWith (x pattern : Argument) :
    CondShape d .endsWith [x, pattern] (endsWith d .endsWith x pattern)
  | like {func : Func} (atStart : Bool) (x pattern : Argument) :
    CondShape d func [x, pattern] (like d func atStart x pattern)
  | nullOrEmpty {func : Func} (x : Argument) :
    CondShape d func [x] (do
      let left := Cond.isNull (← x.scalar)
      return .paren (.or left (.compare .equal (← x.scalar) (.text ""))))
  | nullOrBlank {func : Func} (x : Argument) :
    CondShape d func [x] (do
      let left := Cond.isNull (← x.scalar)
      return .paren (.or left (.compare .equal (trimmed d (← x.scalar)) (.text ""))))
  | wrongArity {func : Func} {args : List Argument} :
    CondShape d func args (.fail (Call.wrongArity func args))

/-- The condition of a call has one of these shapes. -/
theorem condition_shape (d : Dialect) (func : Func) (args : List Argument) :
    CondShape d func args (condition d func args) := by
  unfold condition
  split
  all_goals constructor

end Call

end Sql

end TableQuery
