import TableQuery.Sql.Syntax

/-!
# The text of statements

A statement is written as a sequence of pieces: words, quoted identifiers, literal texts, and the
values to be bound.  The text follows from the pieces alone, where the values become parameters
numbered from left to right.
-/

namespace TableQuery.Sql

/-- A piece of the text of a statement. -/
inductive Piece where
  | word (s : String)
  | identifier (name : String)
  | literal (s : String)
  | param (v : Value)

/-- The value a piece binds. -/
def Piece.value? : Piece → Option Value
  | .param v => some v
  | _ => none

/-- The text of a piece, where `number` is that of the next parameter. -/
def Piece.text (d : Dialect) (number : Nat) : Piece → String
  | .word s => s
  | .identifier name => d.quoteIdentifier name
  | .literal s => s!"'{s}'"
  | .param _ => d.placeholder number

/-- The text of several pieces. -/
def piecesText (d : Dialect) (number : Nat) : List Piece → String
  | [] => ""
  | p :: ps => p.text d number ++ piecesText d (if p.value?.isSome then number + 1 else number) ps

/-- The pieces of several parts with a separator between them. -/
def separated (separator : String) : List (List Piece) → List Piece
  | [] => []
  | [p] => p
  | p :: ps => p ++ .word separator :: separated separator ps

/-- The pieces of a column name. -/
def ColumnName.pieces (c : ColumnName) : List Piece :=
  match c.qualifier with
  | some table => [.identifier table, .word ".", .identifier c.name]
  | none => [.identifier c.name]

/-- The pieces of a sort key. -/
def OrderTerm.pieces (t : OrderTerm) : List Piece :=
  t.column.pieces ++ [.word (if t.ascending then " ASC" else " DESC")]

/-- The pieces of what a statement returns. -/
def Output.pieces : Output → List Piece
  | .all => [.word "*"]
  | .columns names => separated ", " (names.map ColumnName.pieces)
  | .one => [.word "1"]
  | .count big => [.word (if big then "COUNT_BIG(*)" else "COUNT(*)")]

/-- A decimal number as a piece. -/
def numeral (n : Nat) : Piece := .word (toString n)

/-- The pieces of a row limit at the end of a statement. -/
def Limit.pieces : Limit → List Piece
  | .none => []
  | .limitOffset count skipped =>
    [.word " limit ", .word (toString count)] ++
      match skipped with
      | some n => [.word " offset ", numeral n]
      | .none => []
  | .offsetFetch skipped fetched =>
    [.word " OFFSET ", numeral skipped, .word " ROWS"] ++
      match fetched with
      | some n => [.word " FETCH NEXT ", numeral n, .word " ROWS ONLY"]
      | .none => []

/-- The text of a truth value. -/
def truthText (d : Dialect) (b : Bool) : String :=
  match d with
  | .postgreSql => if b then "true" else "false"
  | _ => if b then "1" else "0"

/-- The sign between two texts that are joined. -/
def concatText (d : Dialect) : String := if d = .sqlServer then " + " else " || "

mutual

/-- The pieces of a value. -/
def Scalar.pieces (d : Dialect) : Scalar → List Piece
  | .null => [.word "NULL"]
  | .number n => [numeral n]
  | .truth b => [.word (truthText d b)]
  | .text s => [.literal s]
  | .param v => [.param v]
  | .column c => c.pieces
  | .call r args => .word (r.name d) :: .word "(" :: (scalarListPieces d args ++ [.word ")"])
  | .cast x ty => .word "CAST(" :: (x.pieces d ++ [.word " AS ", .word ty.name, .word ")"])
  | .extract f x =>
    .word "EXTRACT(" :: .word f.name :: .word " FROM " :: (x.pieces d ++ [.word ")"])
  | .extractWeekday x => .word "EXTRACT(DOW FROM " :: (x.pieces d ++ [.word ")"])
  | .datePart f x => .word "DATEPART(" :: .word f.name :: .word ", " :: (x.pieces d ++ [.word ")"])
  | .datePartWeekday x => .word "DATEPART(WEEKDAY, " :: (x.pieces d ++ [.word ")"])
  | .dateFirst => [.word "@@DATEFIRST"]
  | .dateAdd f n x =>
    .word "DATEADD(" :: .word f.name :: .word ", " ::
      (n.pieces d ++ .word ", " :: (x.pieces d ++ [.word ")"]))
  | .interval f n =>
    .word "make_interval(" :: .word f.intervalField :: .word " => " :: (n.pieces d ++ [.word ")"])
  | .localTimestamp => [.word "localtimestamp"]
  | .atTimeZone x zone => x.pieces d ++ [.word " at time zone ", .literal zone]
  | .operator op l r =>
    l.pieces d ++ .word " " :: .word op.symbol :: .word " " :: r.pieces d
  | .concat l r => l.pieces d ++ .word (concatText d) :: r.pieces d
  | .negate x => .word "-" :: x.pieces d
  | .complement x => .word "~" :: x.pieces d
  | .case test yes no =>
    .word "CASE WHEN " :: (test.pieces d ++ .word " THEN " ::
      (yes.pieces d ++ .word " ELSE " :: (no.pieces d ++ [.word " END"])))
  | .paren x => .word "(" :: (x.pieces d ++ [.word ")"])

/-- The pieces of several values with commas between them. -/
def scalarListPieces (d : Dialect) : List Scalar → List Piece
  | [] => []
  | [x] => x.pieces d
  | x :: xs => x.pieces d ++ .word ", " :: scalarListPieces d xs

/-- The pieces of a condition. -/
def Cond.pieces (d : Dialect) : Cond → List Piece
  | .compare op l r =>
    l.pieces d ++ .word " " :: .word op.symbol :: .word " " :: r.pieces d
  | .and l r => l.pieces d ++ .word " and " :: r.pieces d
  | .or l r => l.pieces d ++ .word " or " :: r.pieces d
  | .not c => .word "not " :: c.pieces d
  | .isNull x => x.pieces d ++ [.word " is null"]
  | .isNotNull x => x.pieces d ++ [.word " is not null"]
  | .inList x members => x.pieces d ++ .word " IN (" :: (scalarListPieces d members ++ [.word ")"])
  | .inSelect x s => x.pieces d ++ .word " IN (" :: (s.pieces d ++ [.word ")"])
  | .like x pattern escaped =>
    x.pieces d ++ .word " " :: .word d.likeKeyword :: .word " " ::
      (pattern.pieces d ++ if escaped then [.word " ESCAPE ", .literal "\\"] else [])
  | .exists s => .word "EXISTS (" :: (s.pieces d ++ [.word ")"])
  | .paren c => .word "(" :: (c.pieces d ++ [.word ")"])

/-- The pieces of further conditions that a row must satisfy. -/
def furtherFilters (d : Dialect) : List Cond → List Piece
  | [] => []
  | c :: cs => .word " AND " :: (c.pieces d ++ furtherFilters d cs)

/-- The pieces of the conditions that a row must satisfy. -/
def filterPieces (d : Dialect) : List Cond → List Piece
  | [] => []
  | c :: cs => .word " WHERE " :: (c.pieces d ++ furtherFilters d cs)

/-- The pieces of what a statement reads. -/
def Source.pieces (d : Dialect) : Source → List Piece
  | .table name _ => [.identifier name]
  | .derived s label => .word "(" :: (s.pieces d ++ [.word ") AS ", .identifier label])

/-- The pieces of a statement. -/
def Select.pieces (d : Dialect) : Select → List Piece
  | ⟨distinct, top, output, source, filters, order, limit⟩ =>
    [.word "SELECT "] ++ (if distinct then [.word "DISTINCT "] else []) ++
      (match top with
        | some n => [.word "TOP (", numeral n, .word ") "]
        | none => []) ++
      output.pieces ++ [.word " FROM "] ++ source.pieces d ++ filterPieces d filters ++
      (if order.isEmpty then []
        else .word " ORDER BY " :: separated ", " (order.map OrderTerm.pieces)) ++
      limit.pieces

end

end TableQuery.Sql
