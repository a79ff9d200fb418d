import TableQuery.Proofs.Text.Assembly
import TableQuery.Proofs.Tree.Written

/-!
# The phrases of trees

The phrases that the text of a tree is read as.  This is a function of its own beside the one that
gives the pieces; that the pieces print just these phrases is shown here for the parts of a tree
that have no trees inside them.
-/

namespace TableQuery.Sql

/-- Phrases with commas between them. -/
def commaed : List (List Phrase) → List Phrase
  | [] => []
  | [p] => p
  | p :: ps => p ++ .mark ',' :: commaed ps

/-- What holds of a comma and of all phrases holds of them with commas between. -/
lemma forall_mem_commaed {P : Phrase → Prop} {pss : List (List Phrase)} (hmark : P (.mark ','))
    (h : ∀ ps ∈ pss, ∀ p ∈ ps, P p) : ∀ p ∈ commaed pss, P p := by
  induction pss with
  | nil => exact nofun
  | cons ps pss ih =>
    obtain ⟨hps, hpss⟩ := List.forall_mem_cons.mp h
    cases pss with
    | nil => exact hps
    | cons qs qss =>
      exact List.forall_mem_append.mpr ⟨hps, List.forall_mem_cons.mpr ⟨hmark, ih hpss⟩⟩

/-- The phrase of a column name. -/
def ColumnName.phrase (c : ColumnName) : Phrase := .column c.qualifier c.name

/-- The phrases of a sort key. -/
def OrderTerm.phrases (t : OrderTerm) : List Phrase :=
  [t.column.phrase, .word (if t.ascending then "ASC" else "DESC")]

/-- The phrases of what a statement returns. -/
def Output.phrases : Output → List Phrase
  | .all => [.symbol "*"]
  | .columns names => commaed (names.map fun c => [c.phrase])
  | .one => [.word "1"]
  | .count big => [.call (if big then "COUNT_BIG" else "COUNT") [.symbol "*"]]

/-- The phrases of an integer. -/
def integerPhrases : Int → List Phrase
  | .ofNat n => [.word (toString n)]
  | .negSucc n => [.symbol "-", .word (toString (n + 1))]

/-- The phrases of a row limit at the end of a statement. -/
def Limit.phrases : Limit → List Phrase
  | .none => []
  | .limitOffset count skipped =>
    .word "limit" :: (integerPhrases count ++
      match skipped with
      | some n => [.word "offset", .word (toString n)]
      | .none => [])
  | .offsetFetch skipped fetched =>
    .word "OFFSET" :: .word (toString skipped) :: .word "ROWS" ::
      match fetched with
      | some n => [.word "FETCH", .word "NEXT", .word (toString n), .word "ROWS", .word "ONLY"]
      | .none => []

/-- The phrases of a type. -/
def TypeName.phrases : TypeName → List Phrase
  | nvarchar => [.call "NVARCHAR" [.word "MAX"]]
  | doublePrecision => [.word "double", .word "precision"]
  | ty => [.word ty.name]

/-- The sign between two texts that are joined. -/
def concatSign (d : Dialect) : String := if d = .sqlServer then "+" else "||"

mutual

/-- The phrases of a value. -/
def Scalar.phrases (d : Dialect) : Scalar → List Phrase
  | .null => [.word "NULL"]
  | .number n => [.word (toString n)]
  | .truth b => [.word (truthText d b)]
  | .text s => [.literal s]
  | .param v => [.value v]
  | .column c => [c.phrase]
  | .call r args => [.call (r.name d) (scalarListPhrases d args)]
  | .cast x ty => [.call "CAST" (x.phrases d ++ .word "AS" :: ty.phrases)]
  | .extract f x => [.call "EXTRACT" (.word f.name :: .word "FROM" :: x.phrases d)]
  | .extractWeekday x => [.call "EXTRACT" (.word "DOW" :: .word "FROM" :: x.phrases d)]
  | .datePart f x => [.call "DATEPART" (.word f.name :: .mark ',' :: x.phrases d)]
  | .datePartWeekday x => [.call "DATEPART" (.word "WEEKDAY" :: .mark ',' :: x.phrases d)]
  | .dateFirst => [.word "@@DATEFIRST"]
  | .dateAdd f n x =>
    [.call "DATEADD" (.word f.name :: .mark ',' :: (n.phrases d ++ .mark ',' :: x.phrases d))]
  | .interval f n => [.call "make_interval" (.word f.intervalField :: .symbol "=>" :: n.phrases d)]
  | .localTimestamp => [.word "localtimestamp"]
  | .atTimeZone x zone =>
    x.phrases d ++ [.word "at", .word "time", .word "zone", .literal zone]
  | .operator op l r => l.phrases d ++ .symbol op.symbol :: r.phrases d
  | .concat l r => l.phrases d ++ .symbol (concatSign d) :: r.phrases d
  | .negate x => .symbol "-" :: x.phrases d
  | .complement x => .symbol "~" :: x.phrases d
  | .case test yes no =>
    .word "CASE" :: .word "WHEN" :: (test.phrases d ++ .word "THEN" ::
      (yes.phrases d ++ .word "ELSE" :: (no.phrases d ++ [.word "END"])))
  | .paren x => [.group (x.phrases d)]

/-- The phrases of several values with commas between them. -/
def scalarListPhrases (d : Dialect) : List Scalar → List Phrase
  | [] => []
  | [x] => x.phrases d
  | x :: xs => x.phrases d ++ .mark ',' :: scalarListPhrases d xs

/-- The phrases of a condition. -/
def Cond.phrases (d : Dialect) : Cond → List Phrase
  | .compare op l r => l.phrases d ++ .symbol op.symbol :: r.phrases d
  | .and l r => l.phrases d ++ .word "and" :: r.phrases d
  | .or l r => l.phrases d ++ .word "or" :: r.phrases d
  | .not c => .word "not" :: c.phrases d
  | .isNull x => x.phrases d ++ [.word "is", .word "null"]
  | .isNotNull x => x.phrases d ++ [.word "is", .word "not", .word "null"]
  | .inList x members => x.phrases d ++ [.word "IN", .group (scalarListPhrases d members)]
  | .inSelect x s => x.phrases d ++ [.word "IN", .group (s.phrases d)]
  | .like x pattern escaped =>
    x.phrases d ++ .word d.likeKeyword ::
      (pattern.phrases d ++ if escaped then [.word "ESCAPE", .literal "\\"] else [])
  | .exists s => [.call "EXISTS" (s.phrases d)]
  | .paren c => [.group (c.phrases d)]

/-- The phrases of further conditions that a row must satisfy. -/
def furtherPhrases (d : Dialect) : List Cond → List Phrase
  | [] => []
  | c :: cs => .word "AND" :: (c.phrases d ++ furtherPhrases d cs)

/-- The phrases of the conditions that a row must satisfy. -/
def filterPhrases (d : Dialect) : List Cond → List Phrase
  | [] => []
  | c :: cs => .word "WHERE" :: (c.phrases d ++ furtherPhrases d cs)

/-- The phrases of what a statement reads. -/
def Source.phrases (d : Dialect) : Source → List Phrase
  | .table name _ => [.column none name]
  | .derived s label => [.group (s.phrases d), .word "AS", .column none label]

/-- The phrases of a statement. -/
def Select.phrases (d : Dialect) : Select → List Phrase
  | ⟨distinct, top, output, source, filters, order, limit⟩ =>
    [.word "SELECT"] ++ (if distinct then [.word "DISTINCT"] else []) ++
      (match top with
        | some n => [.word "TOP", .group [.word (toString n)]]
        | none => []) ++
      output.phrases ++ [.word "FROM"] ++ source.phrases d ++ filterPhrases d filters ++
      (if order.isEmpty then []
        else .word "ORDER" :: .word "BY" :: commaed (order.map OrderTerm.phrases)) ++
      limit.phrases

end

/-- The phrases of the sort keys of a statement. -/
def orderPhrases (order : List OrderTerm) : List Phrase :=
  if order.isEmpty then []
  else .word "ORDER" :: .word "BY" :: commaed (order.map OrderTerm.phrases)

/-- The phrases before what is read: how rows are counted and limited, and what is returned. -/
def headPhrases (distinct : Bool) (top : Option Nat) (output : Output) : List Phrase :=
  .word "SELECT" :: ((if distinct then [.word "DISTINCT"] else []) ++
    (match top with
      | some n => [.word "TOP", .group [.word (toString n)]]
      | none => []) ++ output.phrases)

/-- The phrases of a statement, one clause after the other. -/
lemma Select.phrases_eq (d : Dialect) (s : Select) :
    s.phrases d = headPhrases s.distinct s.top s.output ++ .word "FROM" ::
      (s.source.phrases d ++
        (filterPhrases d s.filters ++ (orderPhrases s.order ++ s.limit.phrases))) := by
  obtain ⟨distinct, top, output, source, filters, order, limit⟩ := s
  cases top <;> simp [Select.phrases, headPhrases, orderPhrases]

section Words

variable {d : Dialect}

/-- The sign of an operator between two values stands before anything. -/
lemma leadPhrases?_symbol {op : BinaryOp} (h : op.isNumeric = true ∨ op.isComparison = true) :
    leadPhrases? d op.symbol = some [.symbol op.symbol] := by
  cases op with
  | and | or | coalesce => obtain h | h := h <;> cases h
  | _ => cases d <;> rfl

/-! The phrases of the words that statements are written with. -/

/-- The word between a value and its type, or between a table and its label. -/
lemma between_as : betweenPhrases? d " AS " = some [.word "AS"] := by cases d <;> rfl

/-- The word before the source of a statement. -/
lemma between_from : betweenPhrases? d " FROM " = some [.word "FROM"] := by cases d <;> rfl

/-- The comma between values. -/
lemma between_comma : betweenPhrases? d ", " = some [.mark ','] := by cases d <;> rfl

/-- The arrow between the name of an argument and the argument. -/
lemma between_arrow : betweenPhrases? d " => " = some [.symbol "=>"] := by cases d <;> rfl

/-- The words between a time and its time zone. -/
lemma between_zone :
    betweenPhrases? d " at time zone " = some [.word "at", .word "time", .word "zone"] := by
  cases d <;> rfl

/-- The word between a test and its first result. -/
lemma between_then : betweenPhrases? d " THEN " = some [.word "THEN"] := by cases d <;> rfl

/-- The word between the results of a test. -/
lemma between_else : betweenPhrases? d " ELSE " = some [.word "ELSE"] := by cases d <;> rfl

/-- The word of a conjunction. -/
lemma between_and : betweenPhrases? d " and " = some [.word "and"] := by cases d <;> rfl

/-- The word of a disjunction. -/
lemma between_or : betweenPhrases? d " or " = some [.word "or"] := by cases d <;> rfl

/-- The word between a pattern and its escape character. -/
lemma between_escape : betweenPhrases? d " ESCAPE " = some [.word "ESCAPE"] := by cases d <;> rfl

/-- The word before a filter. -/
lemma between_where : betweenPhrases? d " WHERE " = some [.word "WHERE"] := by cases d <;> rfl

/-- The word between the conditions of a filter. -/
lemma between_further : betweenPhrases? d " AND " = some [.word "AND"] := by cases d <;> rfl

/-- The words before the keys of a sorting. -/
lemma between_orderBy :
    betweenPhrases? d " ORDER BY " = some [.word "ORDER", .word "BY"] := by
  cases d <;> rfl

/-- The word before the number of rows that are taken. -/
lemma between_limit : betweenPhrases? d " limit " = some [.word "limit"] := by cases d <;> rfl

/-- The word before the number of rows that are left out. -/
lemma between_offset : betweenPhrases? d " offset " = some [.word "offset"] := by cases d <;> rfl

/-- The word of an offset, in another dialect. -/
lemma between_skipped : betweenPhrases? d " OFFSET " = some [.word "OFFSET"] := by cases d <;> rfl

/-- The words before the number of rows that are taken, in another dialect. -/
lemma between_fetch :
    betweenPhrases? d " FETCH NEXT " = some [.word "FETCH", .word "NEXT"] := by
  cases d <;> rfl

/-- The word that ends a choice. -/
lemma end_end : endPhrases? d " END" = some [.word "END"] := by cases d <;> rfl

/-- The words of a test for null. -/
lemma end_null : endPhrases? d " is null" = some [.word "is", .word "null"] := by cases d <;> rfl

/-- The words of a test for a value other than null. -/
lemma end_notNull :
    endPhrases? d " is not null" = some [.word "is", .word "not", .word "null"] := by
  cases d <;> rfl

/-- The word of an ascending key. -/
lemma end_ascending : endPhrases? d " ASC" = some [.word "ASC"] := by cases d <;> rfl

/-- The word of a descending key. -/
lemma end_descending : endPhrases? d " DESC" = some [.word "DESC"] := by cases d <;> rfl

/-- The word that ends an offset. -/
lemma end_rows : endPhrases? d " ROWS" = some [.word "ROWS"] := by cases d <;> rfl

/-- The words that end a window. -/
lemma end_rowsOnly :
    endPhrases? d " ROWS ONLY" = some [.word "ROWS", .word "ONLY"] := by
  cases d <;> rfl

/-- The words that begin a choice. -/
lemma lead_case :
    leadPhrases? d "CASE WHEN " = some [.word "CASE", .word "WHEN"] := by
  cases d <;> rfl

/-- The word of a negation. -/
lemma lead_not : leadPhrases? d "not " = some [.word "not"] := by cases d <;> rfl

/-- The word that begins a statement. -/
lemma lead_select : leadPhrases? d "SELECT " = some [.word "SELECT"] := by cases d <;> rfl

/-- The word for rows that are distinct. -/
lemma lead_distinct : leadPhrases? d "DISTINCT " = some [.word "DISTINCT"] := by cases d <;> rfl

/-- The sign of a negated number. -/
lemma lead_minus : leadPhrases? d "-" = some [.symbol "-"] := by cases d <;> rfl

/-- The sign of a number with its bits inverted. -/
lemma lead_tilde : leadPhrases? d "~" = some [.symbol "~"] := by cases d <;> rfl

/-- The call of a conversion. -/
lemma call_cast : callPhrases? d "CAST(" = some ("CAST", []) := by cases d <;> rfl

/-- The call for a part of a date. -/
lemma call_extract : callPhrases? d "EXTRACT(" = some ("EXTRACT", []) := by cases d <;> rfl

/-- The call for the day of the week. -/
lemma call_weekday :
    callPhrases? d "EXTRACT(DOW FROM " = some ("EXTRACT", [.word "DOW", .word "FROM"]) := by
  cases d <;> rfl

/-- The call for a part of a date, in another dialect. -/
lemma call_datePart : callPhrases? d "DATEPART(" = some ("DATEPART", []) := by cases d <;> rfl

/-- The call for the day of the week, in another dialect. -/
lemma call_datePartWeekday :
    callPhrases? d "DATEPART(WEEKDAY, " = some ("DATEPART", [.word "WEEKDAY", .mark ',']) := by
  cases d <;> rfl

/-- The call for a date some time later. -/
lemma call_dateAdd : callPhrases? d "DATEADD(" = some ("DATEADD", []) := by cases d <;> rfl

/-- The call for a length of time. -/
lemma call_interval :
    callPhrases? d "make_interval(" = some ("make_interval", []) := by
  cases d <;> rfl

/-- The test for existence, which is written like a call. -/
lemma call_exists : callPhrases? d "EXISTS (" = some ("EXISTS", []) := by cases d <;> rfl

/-- An opening parenthesis. -/
lemma opening_paren : openingPhrases? d "(" = some [] := by cases d <;> rfl

/-- The word of a test for membership. -/
lemma opening_in : openingPhrases? d " IN (" = some [.word "IN"] := by cases d <;> rfl

/-- The word of a row limit. -/
lemma opening_top : openingPhrases? d "TOP (" = some [.word "TOP"] := by cases d <;> rfl

/-- A closing parenthesis. -/
lemma closing_paren : closingPhrases? d ")" = some [] := by cases d <;> rfl

/-- The end of a row limit. -/
lemma closing_top : closingPhrases? d ") " = some [] := by cases d <;> rfl

/-- The end of a statement that is read as a table. -/
lemma closing_derived : closingPhrases? d ") AS " = some [.word "AS"] := by cases d <;> rfl

/-- The name of a routine is a plain name and no keyword. -/
lemma name_routine (r : Routine) :
    isPlainName (r.name d) = true ∧ r.name d ∉ keywords := by
  cases r <;> cases d <;> exact ⟨rfl, by decide⟩

/-- The name of a type. -/
lemma TypeName.prints (ty : TypeName) : Prints d [.word ty.name] ty.phrases := by
  cases ty with
  | nvarchar =>
    exact Prints.fixedCall (f := "NVARCHAR") (t := [.word "MAX"]) (by cases d <;> rfl)
      (by cases d <;> rfl) rfl (by decide) (by cases d <;> rfl)
  | doublePrecision => exact Prints.word (by cases d <;> rfl)
  | _ => exact Prints.name rfl

/-- The names of the parts of a date are plain names. -/
lemma DateField.name_isPlainName (f : DateField) :
    isPlainName f.name = true ∧ isPlainName f.intervalField = true := by
  cases f <;> exact ⟨rfl, rfl⟩

end Words

section Parts

variable {d : Dialect}

/-- The name of a column. -/
lemma ColumnName.prints (c : ColumnName) : Prints d c.pieces [c.phrase] := by
  obtain ⟨qualifier, name, row⟩ := c
  cases qualifier with
  | none => exact Prints.identifier name
  | some table =>
    have hpoint : isClosed d "." = true ∧ wordTokens d "." = [.mark '.'] := by
      cases d <;> exact ⟨rfl, rfl⟩
    constructor
    case scans =>
      exact (Scans.identifier table).append (Scans.closed_cons hpoint.1 (Scans.identifier name))
        (Begins.word rfl)
    case bound => exact .nil
    case adds =>
      -- From the end: the name is a column by itself, and the table and the point in front qualify
      -- it.
      intro bound n _ rest here around ha hh
      have hname : arrange d bound (.name name :: rest) =
          some ⟨.column none name :: here, around⟩ := by
        rw [arrange, ha]
        simp [place, joinName_of_quiet hh]
      have hrest : arrange d bound (.mark '.' :: .name name :: rest) =
          some ⟨.mark '.' :: .column none name :: here, around⟩ := by
        rw [arrange, hname]
        rfl
      have htokens : tokensOf d n (ColumnName.mk (some table) name row).pieces =
          [.name table, .mark '.', .name name] := by
        simp [ColumnName.pieces, tokensOf, Piece.tokens, hpoint.2]
      rw [htokens, List.cons_append, List.cons_append, List.singleton_append, arrange, hrest]
      rfl

/-- Pieces with commas between them. -/
lemma Prints.separated {α : Type} {f : α → List Piece} {g : α → List Phrase} {xs : List α}
    (h : ∀ x ∈ xs, Prints d (f x) (g x)) :
    Prints d (Sql.separated ", " (xs.map f)) (commaed (xs.map g)) := by
  induction xs with
  | nil => exact Prints.nil
  | cons x xs ih =>
    have hx : Prints d (f x) (g x) := h x List.mem_cons_self
    have hxs := ih fun y hy => h y (List.mem_cons_of_mem x hy)
    cases xs with
    | nil => exact hx
    | cons y ys => exact hx.between between_comma hxs

/-- A key of a sorting. -/
lemma OrderTerm.prints (t : OrderTerm) : Prints d t.pieces t.phrases := by
  obtain ⟨column, ascending⟩ := t
  cases ascending with
  | true => exact column.prints.behind end_ascending
  | false => exact column.prints.behind end_descending

/-- What a statement returns. -/
lemma Output.prints (o : Output) : Prints d o.pieces o.phrases := by
  cases o with
  | all => exact Prints.word (by cases d <;> rfl)
  | columns names => exact Prints.separated fun c _ => c.prints
  | one => exact Prints.name rfl
  | count big =>
    cases big with
    | true =>
      exact Prints.fixedCall (f := "COUNT_BIG") (t := [.symbol "*"]) (by cases d <;> rfl)
        (by cases d <;> rfl) rfl (by decide) (by cases d <;> rfl)
    | false =>
      exact Prints.fixedCall (f := "COUNT") (t := [.symbol "*"]) (by cases d <;> rfl)
        (by cases d <;> rfl) rfl (by decide) (by cases d <;> rfl)

/-- A number with or without a sign. -/
lemma prints_integer (n : Int) : Prints d [.word (toString n)] (integerPhrases n) := by
  cases n with
  | ofNat n => exact Prints.name (isPlainName_numeral n)
  | negSucc n => exact Prints.minus (isPlainName_numeral (n + 1))

/-- The window of a statement, which follows its other clauses. -/
lemma Limit.follows (l : Limit) : Follows d l.pieces l.phrases := by
  have hnumeral : ∀ n, Prints d [numeral n] [.word (toString n)] := fun n =>
    Prints.name (isPlainName_numeral n)
  cases l with
  | none => exact Follows.nil
  | limitOffset count skipped =>
    have hcount := (prints_integer (d := d) count).follows between_limit
    cases skipped with
    | none => simpa [Limit.pieces, Limit.phrases] using hcount
    | some n =>
      simpa [Limit.pieces, Limit.phrases] using hcount.append ((hnumeral n).follows between_offset)
  | offsetFetch skipped fetched =>
    have hskipped := ((hnumeral skipped).behind end_rows).follows between_skipped
    cases fetched with
    | none => exact hskipped
    | some n => exact hskipped.append (((hnumeral n).behind end_rowsOnly).follows between_fetch)

end Parts

end TableQuery.Sql
