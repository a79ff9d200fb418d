import TableQuery.Proofs.Rows.Clauses

/-!
# The rows of a statement

What a server returns for the phrases of a `SELECT` statement (`rows?`), over lists of rows: the
rows of the source that satisfy the conditions, as the output wants them, without repetitions if
equal rows count once, sorted by the keys, and of these the rows in the window.  An output that
counts returns the number of rows instead.  The source is a table or another statement in
parentheses.

What a server holds, how it decides a condition on a row, which rows it takes for equal and how it
compares two values are parameters (`Server`).  A condition may ask for anything that the server
holds, so subqueries need no more than that.
-/

namespace TableQuery.Sql

/-- Rows, and the names of the columns. -/
structure Relation (V : Type) where
  header : List String
  rows : List (List V)

/-- What a server holds and how it treats values. -/
structure Server (V : Type) where
  /-- The rows of a table. -/
  contents : String → Relation V
  /-- Whether a condition holds on a row of a source, given the names of the columns. -/
  holds (source condition : List Phrase) (header : List String) (row : List V) : Bool
  /-- Whether two rows are equal. -/
  same : List V → List V → Bool
  /-- The order of two values. -/
  compare : V → V → Ordering
  /-- A natural number as a value. -/
  number : Nat → V
  /-- The value that stands for none. -/
  null : V

variable {V : Type}

/-- The name by which columns of a source may be qualified. -/
def sourceName? : List Phrase → Option String
  | [.column none name] => some name
  | [.group _, .word w, .column none label] => if w = "AS" then some label else none
  | _ => none

section Columns

variable (source : List Phrase) (header : List String)

/-- The position of a column of a source. -/
def columnIndex? : Phrase → Option Nat
  | .column qualifier name =>
    if qualifier = none ∨ qualifier = sourceName? source then header.idxOf? name else none
  | _ => none

/-- The positions of columns with commas between them. -/
def columnList? : List Phrase → Option (List Nat)
  | [p] => (columnIndex? source header p).map ([·])
  | p :: .mark ',' :: ps => do return (← columnIndex? source header p) :: (← columnList? ps)
  | _ => none

/-- The direction of a sort key: whether small values come first. -/
def direction? (w : String) : Option Bool :=
  if w = "ASC" then some true else if w = "DESC" then some false else none

/-- The positions and directions of sort keys with commas between them. -/
def keyList? : List Phrase → Option (List (Nat × Bool))
  | [p, .word w] => do return [(← columnIndex? source header p, ← direction? w)]
  | p :: .word w :: .mark ',' :: ps => do
    let key := (← columnIndex? source header p, ← direction? w)
    return key :: (← keyList? ps)
  | _ => none

/-- The sort keys, if there are any. -/
def sortKeys? : Option (List Phrase) → Option (List (Nat × Bool))
  | none => some []
  | some (.word w :: ps) => if w = "BY" then keyList? source header ps else none
  | some _ => none

end Columns

namespace Server

variable (server : Server V)

/-- Whether a row may stand before another, by the first sort key that tells them apart. -/
def ordered : List (Nat × Bool) → List V → List V → Bool
  | [], _, _ => true
  | (i, ascending) :: keys, r, s =>
    match server.compare (r.getD i server.null) (s.getD i server.null) with
    | .lt => ascending
    | .eq => ordered keys r s
    | .gt => !ascending

/-- The names of the columns that a statement returns, and what it returns for a row. -/
def output? (source : List Phrase) (header : List String) :
    List Phrase → Option (List String × (List V → List V))
  | [.symbol s] => if s = "*" then some (header, id) else none
  | [.word w] => (Phrase.word w).natural?.map fun n => ([""], fun _ => [server.number n])
  | ps => (columnList? source header ps).map fun columns =>
    (columns.map (header.getD · ""), fun row => columns.map (row.getD · server.null))

end Server

/-- Whether a statement returns the number of rows. -/
def countsRows : List Phrase → Bool
  | [.call f [.symbol s]] => (f == "COUNT" || f == "COUNT_BIG") && s == "*"
  | _ => false

namespace Clauses

variable (server : Server V) (c : Clauses) (source : Relation V)

/-- The rows of a source that satisfy the conditions. -/
def kept : List (List V) :=
  match c.filter with
  | none => source.rows
  | some condition => source.rows.filter (server.holds c.source condition source.header)

/-- The rows that a statement returns, where the window is left out of account.  Each of them is
sorted by the row of the source that it comes from. -/
def listed? : Option (Relation V) := do
  let (header, shown) ← server.output? c.source source.header c.output
  let keys ← sortKeys? c.source source.header c.order
  let pairs := (c.kept server source).map fun row => (row, shown row)
  let pairs := if c.distinct then pairs.eraseDupsBy fun a b => server.same a.2 b.2 else pairs
  let pairs :=
    if keys.isEmpty then pairs else pairs.mergeSort fun a b => server.ordered keys a.1 b.1
  return ⟨header, pairs.map Prod.snd⟩

/-- The rows that a statement returns. -/
def rows? : Option (Relation V) :=
  if countsRows c.output then
    if c.order.isNone then
      some ⟨[""], c.window.of [[server.number (c.kept server source).length]]⟩
    else none
  else (c.listed? server source).map fun r => { r with rows := c.window.of r.rows }

end Clauses

section Statements

variable (server : Server V)

/-- Whether a phrase is the word before the source. -/
def Phrase.isFrom : Phrase → Bool
  | .word w => w == "FROM"
  | _ => false

/-- The rows of a statement, given the rows that each of its phrases stands for. -/
def statementRows? (ps : List Phrase) (relations : List (Option (Relation V))) :
    Option (Relation V) := do
  let c ← clauses? ps
  let source ← relations[ps.findIdx Phrase.isFrom + 1]?.join
  c.rows? server source

mutual

/-- The rows that a phrase stands for as a source. -/
def Phrase.relation? : Phrase → Option (Relation V)
  | .column none name => some (server.contents name)
  | .group ps => statementRows? server ps (relations ps)
  | _ => none

/-- The rows that each of some phrases stands for as a source. -/
def relations : List Phrase → List (Option (Relation V))
  | [] => []
  | p :: ps => p.relation? :: relations ps

end

/-- The rows of a statement. -/
def rows? (ps : List Phrase) : Option (Relation V) :=
  statementRows? server ps (relations server ps)

/-- The rows that each of some phrases stands for, one by one. -/
lemma relations_eq_map (ps : List Phrase) :
    relations server ps = ps.map (Phrase.relation? server) := by
  induction ps with
  | nil => rfl
  | cons p ps ih => rw [relations, List.map_cons, ih]

/-- The rows of a statement are those of its clauses over the rows of its source. -/
lemma rows?_of_clauses {head rest : List Phrase} {p : Phrase} {c : Clauses}
    (hhead : ∀ q ∈ head, q.isFrom = false)
    (hc : clauses? (head ++ .word "FROM" :: p :: rest) = some c) :
    rows? server (head ++ .word "FROM" :: p :: rest) =
      (p.relation? server).bind (c.rows? server) := by
  have hfrom : (head ++ .word "FROM" :: p :: rest).findIdx Phrase.isFrom = head.length := by
    have hnone : head.findIdx Phrase.isFrom = head.length :=
      List.findIdx_eq_length.mpr hhead
    rw [List.findIdx_append, hnone, if_neg (Nat.lt_irrefl _), List.findIdx_cons]
    simp [Phrase.isFrom]
  have hsource : ((head ++ .word "FROM" :: p :: rest).map (Phrase.relation? server))[
      head.length + 1]? = some (p.relation? server) := by
    simp
  rw [rows?, statementRows?, hc, relations_eq_map, hfrom, hsource]
  rfl

end Statements

section Trees

variable {d : Dialect} {server : Server V} {source : List Phrase} {header : List String}

/-- An unqualified column has a position if the source has a column of that name. -/
lemma columnIndex?_isSome {c : ColumnName} (hqualifier : c.qualifier = none)
    (hname : c.name ∈ header) : (columnIndex? source header c.phrase).isSome = true := by
  rw [ColumnName.phrase, columnIndex?, if_pos (.inl hqualifier), List.isSome_idxOf?]
  exact hname

/-- Columns have positions if each of them has one. -/
lemma columnList?_isSome {c : ColumnName} {cs : List ColumnName}
    (h : ∀ b ∈ c :: cs, b.qualifier = none ∧ b.name ∈ header) :
    (columnList? source header (commaed ((c :: cs).map fun b => [b.phrase]))).isSome = true := by
  obtain ⟨i, hi⟩ : ∃ i, columnIndex? source header c.phrase = some i := by
    have hc := h c List.mem_cons_self
    exact Option.isSome_iff_exists.mp (columnIndex?_isSome hc.1 hc.2)
  induction cs generalizing c i with
  | nil => simp [commaed, columnList?, hi]
  | cons b bs ih =>
    have hbs : ∀ a ∈ b :: bs, a.qualifier = none ∧ a.name ∈ header :=
      fun a ha => h a (List.mem_cons_of_mem c ha)
    obtain ⟨j, hj⟩ : ∃ j, columnIndex? source header b.phrase = some j := by
      have hb := hbs b List.mem_cons_self
      exact Option.isSome_iff_exists.mp (columnIndex?_isSome hb.1 hb.2)
    obtain ⟨is, his⟩ := Option.isSome_iff_exists.mp (ih hbs j hj)
    have hcommaed : commaed ((c :: b :: bs).map fun a => [a.phrase]) =
        c.phrase :: .mark ',' :: commaed ((b :: bs).map fun a => [a.phrase]) := rfl
    rw [hcommaed, columnList?, hi, his]
    rfl

/-- The directions of sort keys are those that trees have. -/
lemma direction?_word (ascending : Bool) :
    direction? (if ascending then "ASC" else "DESC") = some ascending := by
  cases ascending <;> rfl

/-- Sort keys have positions if the column of each of them has one. -/
lemma keyList?_isSome {t : OrderTerm} {ts : List OrderTerm}
    (h : ∀ b ∈ t :: ts, b.column.qualifier = none ∧ b.column.name ∈ header) :
    (keyList? source header (commaed ((t :: ts).map OrderTerm.phrases))).isSome = true := by
  obtain ⟨i, hi⟩ : ∃ i, columnIndex? source header t.column.phrase = some i := by
    have ht := h t List.mem_cons_self
    exact Option.isSome_iff_exists.mp (columnIndex?_isSome ht.1 ht.2)
  -- On the keys behind the first: only between two keys is there a comma.
  induction ts generalizing t i with
  | nil => simp [commaed, OrderTerm.phrases, keyList?, hi, direction?_word]
  | cons b bs ih =>
    have hbs : ∀ a ∈ b :: bs, a.column.qualifier = none ∧ a.column.name ∈ header :=
      fun a ha => h a (List.mem_cons_of_mem t ha)
    obtain ⟨j, hj⟩ : ∃ j, columnIndex? source header b.column.phrase = some j := by
      have hb := hbs b List.mem_cons_self
      exact Option.isSome_iff_exists.mp (columnIndex?_isSome hb.1 hb.2)
    obtain ⟨ks, hks⟩ := Option.isSome_iff_exists.mp (ih hbs j hj)
    have hcommaed : commaed ((t :: b :: bs).map OrderTerm.phrases) =
        t.column.phrase :: .word (if t.ascending then "ASC" else "DESC") :: .mark ',' ::
          commaed ((b :: bs).map OrderTerm.phrases) := rfl
    rw [hcommaed, keyList?, hi, direction?_word, hks]
    rfl

/-- The sort keys of a statement have positions if the column of each of them has one. -/
lemma sortKeys?_isSome {order : List OrderTerm}
    (h : ∀ t ∈ order, t.column.qualifier = none ∧ t.column.name ∈ header) :
    (sortKeys? source header (orderInside order)).isSome = true := by
  cases order with
  | nil => rfl
  | cons t ts => exact keyList?_isSome h

/-- Only the output that counts rows returns their number. -/
lemma countsRows_phrases {o : Output} (h : ∀ big, o ≠ .count big) :
    countsRows o.phrases = false := by
  cases o with
  | all => rfl
  | columns names =>
    cases names with
    | nil => rfl
    | cons c cs => cases cs <;> rfl
  | one => rfl
  | count big => exact absurd rfl (h big)

/-- A statement that names columns returns what a row has in them. -/
lemma output?_columns (c : ColumnName) (cs : List ColumnName) :
    server.output? source header (Output.columns (c :: cs)).phrases =
      (columnList? source header (commaed ((c :: cs).map fun b => [b.phrase]))).map
        fun columns => (columns.map (header.getD · ""),
          fun row => columns.map (row.getD · server.null)) := by
  cases cs <;> rfl

/-- What a statement returns for a row is known if the columns that it returns have positions. -/
lemma output?_isSome {o : Output} (hcount : ∀ big, o ≠ .count big) (hne : o ≠ .columns [])
    (h : ∀ c ∈ o.names, c.qualifier = none ∧ c.name ∈ header) :
    (server.output? source header o.phrases).isSome = true := by
  cases o with
  | all => rfl
  | columns names =>
    cases names with
    | nil => exact absurd rfl hne
    | cons c cs =>
      have hlist : (columnList? source header
          (commaed ((c :: cs).map fun b => [b.phrase]))).isSome = true := columnList?_isSome h
      rw [output?_columns, Option.isSome_map]
      exact hlist
  | one => rfl
  | count big => exact absurd rfl (hcount big)

/-- The rows that a statement returns are known if its columns have positions. -/
lemma listed?_isSome {s : Select} {relation : Relation V}
    (hcount : ∀ big, s.output ≠ .count big) (hne : s.output ≠ .columns [])
    (hnames : ∀ c ∈ s.output.names, c.qualifier = none ∧ c.name ∈ relation.header)
    (horder : ∀ t ∈ s.order, t.column.qualifier = none ∧ t.column.name ∈ relation.header) :
    ((s.clauses d).listed? server relation).isSome = true := by
  obtain ⟨shown, hshown⟩ : ∃ shown, server.output? (s.clauses d).source relation.header
      (s.clauses d).output = some shown :=
    Option.isSome_iff_exists.mp (output?_isSome hcount hne hnames)
  obtain ⟨keys, hkeys⟩ : ∃ keys, sortKeys? (s.clauses d).source relation.header
      (s.clauses d).order = some keys :=
    Option.isSome_iff_exists.mp (sortKeys?_isSome horder)
  rw [Clauses.listed?, hshown, Option.bind_eq_bind, Option.bind_some, hkeys]
  rfl

/-- If equal rows are returned as often as they occur, then as many rows are returned, but for the
window, as satisfy the conditions. -/
lemma length_listed? {c : Clauses} {relation r : Relation V} (hdistinct : c.distinct = false)
    (h : c.listed? server relation = some r) :
    r.rows.length = (c.kept server relation).length := by
  unfold Clauses.listed? at h
  obtain ⟨⟨names, shown⟩, -, h⟩ := Option.bind_eq_some_iff.mp h
  obtain ⟨keys, -, h⟩ := Option.bind_eq_some_iff.mp h
  cases h
  simp only [hdistinct, Bool.false_eq_true, if_false, List.length_map]
  split
  · exact List.length_map _
  · rw [List.length_mergeSort, List.length_map]

/-- The first phrases of a statement, up to its output, have no `FROM`. -/
lemma isFrom_head (distinct : Bool) (top : Option Nat) (o : Output) :
    ∀ p ∈ headPhrases distinct top o, p.isFrom = false := by
  have houtput : ∀ p ∈ o.phrases, p.isFrom = false := by
    intro p hp
    have hinside := (isInner_output o).isInside p hp
    cases p with
    | word w =>
      -- The output has no word that begins a clause, and `FROM` is one.
      have hw : w ∉ clauseWords := of_decide_eq_false hinside
      refine beq_eq_false_iff_ne.mpr fun he => hw ?_
      rw [he]
      exact List.mem_cons_self
    | _ => rfl
  unfold headPhrases
  rw [List.forall_mem_cons, List.forall_mem_append, List.forall_mem_append]
  refine ⟨by decide, ⟨?_, ?_⟩, houtput⟩
  · cases distinct <;> simp [Phrase.isFrom]
  · cases top <;> simp [Phrase.isFrom]

/-- The rows of what a statement reads. -/
def Source.relation? (server : Server V) (d : Dialect) : Source → Option (Relation V)
  | .table name _ => some (server.contents name)
  | .derived t _ => Sql.rows? server (t.phrases d)

/-- The rows of a statement are those of its clauses over the rows of its source. -/
theorem rows?_phrases {s : Select} (hfilters : ∀ c ∈ s.filters, c.isSingle = true)
    (hlimits : s.top = none ∨ s.limit = .none) :
    rows? server (s.phrases d) =
      (s.source.relation? server d).bind ((s.clauses d).rows? server) := by
  have hclauses := clauses?_phrases (d := d) hfilters hlimits
  have hhead := isFrom_head s.distinct s.top s.output
  rw [Select.phrases_eq] at hclauses ⊢
  cases hsource : s.source with
  | table name row =>
    rw [hsource] at hclauses
    exact rows?_of_clauses server hhead hclauses
  | derived t label =>
    rw [hsource] at hclauses
    exact rows?_of_clauses server hhead hclauses

end Trees

end TableQuery.Sql
