import TableQuery.Proofs.Operator
import TableQuery.Sql.Render

/-!
# Trees as they are written

What the trees of statements have in common, beyond their sorts.  Their texts can be read back
without knowledge of precedence: an operand is a single phrase, or a sum to the left of another; at
most one connective stands between two parentheses; and no sign follows another.  The values to be
bound are not null, texts written out have no apostrophe, and operators are of the kind their place
wants.

The columns of a tree satisfy a condition that depends on the tables they may be read from: those of
the `FROM` clauses around the column, innermost first.  The condition is a parameter.
-/

namespace TableQuery

/-- Whether an operator adds or subtracts. -/
def BinaryOp.isAdditive (op : BinaryOp) : Bool := op == .add || op == .subtract

/-- Whether an operator computes a value from two numbers. -/
def BinaryOp.isNumeric (op : BinaryOp) : Bool := op.isArithmetic || op.isBitwise

namespace Sql

/-- A table in a `FROM` clause, and the identity of its row. -/
structure From where
  table : String
  row : SourceId

/-- The tables whose columns can be read because of what a statement reads.  The rows of another
statement have no columns of their own. -/
def Source.froms : Source → List From
  | .table name row => [⟨name, row⟩]
  | .derived .. => []

/-- The columns that a statement returns by name. -/
def Output.names : Output → List ColumnName
  | .columns names => names
  | _ => []

/-- Whether a value is written as a single phrase. -/
def Scalar.isSingle : Scalar → Bool
  | .atTimeZone .. | .operator .. | .concat .. | .negate _ | .complement _ | .case .. => false
  | _ => true

/-- Whether a value is written as a single phrase and no constant is written out, apart from
null. -/
def Scalar.isPrimary : Scalar → Bool
  | .number _ | .truth _ | .text _ | .dateFirst => false
  | x => x.isSingle

/-- Whether a value is a sum or a difference without parentheses. -/
def Scalar.isSum : Scalar → Bool
  | .operator op _ _ => op.isAdditive
  | _ => false

/-- Whether a condition is written as a single phrase. -/
def Cond.isSingle : Cond → Bool
  | .exists _ | .paren _ => true
  | _ => false

/-- Whether a condition has no connective outside parentheses. -/
def Cond.isClause : Cond → Bool
  | .and .. | .or .. | .not _ => false
  | _ => true

/-- A single phrase has no connective outside parentheses. -/
lemma Cond.isClause_of_isSingle {c : Cond} (h : c.isSingle = true) : c.isClause = true := by
  cases c with
  | «exists» s => rfl
  | paren c => rfl
  | _ => cases h

/-- What can stand anywhere is a single phrase. -/
lemma Scalar.isSingle_of_isPrimary {x : Scalar} (h : x.isPrimary = true) : x.isSingle = true := by
  cases x with
  | number n => cases h
  | truth b => cases h
  | text s => cases h
  | dateFirst => cases h
  | _ => exact h

mutual

/-- Whether a value is written as it should be, where its columns may be read from `chain`. -/
def Scalar.Written (ok : List From → ColumnName → Prop) (chain : List From) : Scalar → Prop
  | .null | .number _ | .truth _ | .dateFirst | .localTimestamp => True
  | .text s => '\'' ∉ s.toList
  | .param v => v.isNull = false
  | .column c => ok chain c
  | .call _ args => scalarsWritten ok chain args
  | .cast x _ | .extract _ x | .extractWeekday x | .datePart _ x | .datePartWeekday x | .paren x
  | .interval _ x => x.Written ok chain
  | .dateAdd _ n x => n.Written ok chain ∧ x.Written ok chain
  | .atTimeZone x zone => (x.isSingle = true ∧ x.Written ok chain) ∧ '\'' ∉ zone.toList
  | .operator op l r =>
    op.isNumeric = true ∧
      ((l.isSingle = true ∨ op.isAdditive = true ∧ l.isSum = true) ∧ l.Written ok chain) ∧
      (r.isSingle = true ∧ r.Written ok chain)
  | .concat l r =>
    (l.isSingle = true ∧ l.Written ok chain) ∧ (r.isSingle = true ∧ r.Written ok chain)
  | .negate x | .complement x => x.isSingle = true ∧ x.Written ok chain
  | .case test yes no =>
    (test.isClause = true ∧ test.Written ok chain) ∧ yes.Written ok chain ∧ no.Written ok chain

/-- Whether all of some values are written as they should be. -/
def scalarsWritten (ok : List From → ColumnName → Prop) (chain : List From) : List Scalar → Prop
  | [] => True
  | x :: xs => x.Written ok chain ∧ scalarsWritten ok chain xs

/-- Whether a condition is written as it should be. -/
def Cond.Written (ok : List From → ColumnName → Prop) (chain : List From) : Cond → Prop
  | .compare op l r =>
    op.isComparison = true ∧ (l.isSingle = true ∧ l.Written ok chain) ∧
      (r.isSingle = true ∧ r.Written ok chain)
  | .and l r =>
    (l.isSingle = true ∧ l.Written ok chain) ∧ (r.isSingle = true ∧ r.Written ok chain)
  | .or l r =>
    (l.isClause = true ∧ l.Written ok chain) ∧ (r.isClause = true ∧ r.Written ok chain)
  | .not c => c.isSingle = true ∧ c.Written ok chain
  | .isNull x | .isNotNull x => x.isSingle = true ∧ x.Written ok chain
  | .inList x members =>
    (x.isSingle = true ∧ x.Written ok chain) ∧ scalarsWritten ok chain members
  | .inSelect x s => (x.isSingle = true ∧ x.Written ok chain) ∧ s.Written ok chain
  | .like x pattern _ =>
    (x.isSingle = true ∧ x.Written ok chain) ∧ (pattern.isSingle = true ∧ pattern.Written ok chain)
  | .exists s => s.Written ok chain
  | .paren c => c.Written ok chain

/-- Whether the conditions of a statement are written as they should be. -/
def filtersWritten (ok : List From → ColumnName → Prop) (chain : List From) : List Cond → Prop
  | [] => True
  | c :: cs => (c.isSingle = true ∧ c.Written ok chain) ∧ filtersWritten ok chain cs

/-- Whether what a statement reads is written as it should be. -/
def Source.Written (ok : List From → ColumnName → Prop) (chain : List From) : Source → Prop
  | .table .. => True
  | .derived s _ => s.Written ok chain

/-- Whether a statement is written as it should be.  Its columns may also be read from its own
table. -/
def Select.Written (ok : List From → ColumnName → Prop) (chain : List From) : Select → Prop
  | ⟨_, _, output, source, filters, order, _⟩ =>
    (∀ c ∈ output.names, ok (source.froms ++ chain) c) ∧ source.Written ok chain ∧
      filtersWritten ok (source.froms ++ chain) filters ∧
      ∀ t ∈ order, ok (source.froms ++ chain) t.column

end

end Sql

end TableQuery
