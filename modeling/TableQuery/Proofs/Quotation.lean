import TableQuery.Proofs.Family.Expression
import TableQuery.Proofs.Schema.Index
import TableQuery.Proofs.Statement

/-!
# Quotation

No name gets out of its quotation marks (`identifiers_quoted`).  Whatever characters the names of
tables and columns have, the text of a statement can be scanned to its end; its quoted identifiers
stand for the names in the tree of the statement, one by one, and these are names of tables and
columns that the query reads; and outside quotation nothing ends the statement or begins a comment.

All words of statements are harmless and all names are those of the query; this is a stable property
of pieces, so that it holds of every statement.
-/

namespace TableQuery.Sql

/-- The name that a piece quotes. -/
def Piece.identifier? : Piece → Option String
  | .identifier name => some name
  | _ => none

/-- The name that a token stands for. -/
def Token.name? : Token → Option String
  | .name s => some s
  | _ => none

/-- The names in the statement of a query: those of the tables that it reads, those of the columns
that its references mean and of the tables of their rows, and the one of the rows that are counted
by way of another statement. -/
inductive NameIn (d : Dialect) (q : Query) : String → Prop where
  | table {t : Table} : t ∈ q.tables → NameIn d q t.name
  | column {s : Site} {scope : Scope} {column : Column} :
    s ∈ querySites q (Context.top d q) → s.place.scope? s.ref.source = some scope →
      scope.table.column? s.ref.column = some column → NameIn d q column.name
  | qualifier {s : Site} {scope : Scope} :
    s ∈ querySites q (Context.top d q) → s.place.scope? s.ref.source = some scope →
      NameIn d q scope.table.name
  | counted : (q.terminal.isCount && (q.isPaged || q.distinct)) = true → NameIn d q "t"

/-- A piece is safe if it is a harmless word, a name that is allowed, a literal or a parameter. -/
def Piece.IsSafe (d : Dialect) (ok : String → Prop) : Piece → Prop
  | .word s => isHarmless d s = true
  | .identifier name => ok name
  | .literal _ | .param _ => True

section Safe

variable {d : Dialect} {q : Query} {ok : String → Prop} {us vs : List Piece}

/-- Pieces are safe. -/
def AllSafe (d : Dialect) (ok : String → Prop) (us : List Piece) : Prop := ∀ p ∈ us, p.IsSafe d ok

/-- Safety holds of what a dialect writes. -/
lemma stable_allSafe : Stable d fun us : Unit → List Piece => AllSafe d ok (us ()) where
  nil := List.forall_mem_nil _
  append hu hv := List.forall_mem_append.mpr ⟨hu, hv⟩
  word hs := List.forall_mem_singleton.mpr hs
  literal _ := List.forall_mem_singleton.mpr trivial
  param _ := List.forall_mem_singleton.mpr trivial

/-- The name of a column is safe. -/
lemma column_allSafe {s : Site} {c : ColumnName} (hs : s ∈ querySites q (Context.top d q))
    (hc : s.place.columnName s.ref = .ok c) : AllSafe d (NameIn d q) c.pieces := by
  obtain ⟨scope, column, hscope, hcolumn, rfl⟩ := Context.columnName_eq_ok hc
  have hname : NameIn d q column.name := .column hs hscope hcolumn
  have htable : NameIn d q scope.table.name := .qualifier hs hscope
  have hpoint : isHarmless d "." = true := by cases d <;> rfl
  cases s.place.qualify with
  | false => exact List.forall_mem_singleton.mpr hname
  | true =>
    intro p hp
    simp only [ColumnName.pieces, if_true, List.mem_cons, List.not_mem_nil, or_false] at hp
    obtain rfl | rfl | rfl := hp
    · exact htable
    · exact hpoint
    · exact hname

/-- All of a statement is safe. -/
lemma select_allSafe {s : Select} (h : (ofQuery d q).result = .ok (.select s)) :
    AllSafe d (NameIn d q) (s.pieces d) := by
  -- The statement is a family of one: nothing is replaced.
  have hcovers : Covers (fun us : Unit → List Piece => AllSafe d (NameIn d q) (us ()))
      (fun _ => .keep) (q.literals []) (querySites q (Context.top d q)) q.tables := by
    refine ⟨fun _ l _ => Replacement.allows_keep l, fun l _ _ => ?_, fun s hs c hc => ?_,
      fun t ht => ?_⟩
    · exact List.forall_mem_singleton.mpr trivial
    · exact column_allSafe hs hc
    · exact List.forall_mem_singleton.mpr (.table ht)
  have huniform := ofQuery_uniform stable_allSafe hcovers fun hcount =>
    List.forall_mem_singleton.mpr (.counted hcount)
  simp only [Query.replace_keep] at huniform
  obtain ⟨e, he⟩ | ⟨_, hs, s', rfl, hsafe⟩ := huniform
  · cases h.symm.trans (he ())
  · cases h.symm.trans (hs ())
    exact hsafe

/-- The tokens of safe pieces are quoted or harmless. -/
lemma tokensOf_allSafe (h : AllSafe d ok us) (n : Nat) :
    ∀ t ∈ tokensOf d n us, t.isQuoted = true ∨ t.isHarmless = true := by
  induction us generalizing n with
  | nil => exact List.forall_mem_nil _
  | cons p ps ih =>
    obtain ⟨hp, hps⟩ := List.forall_mem_cons.mp h
    refine List.forall_mem_append.mpr ⟨fun t ht => ?_, ih hps _⟩
    cases p with
    | word s => exact .inr (List.all_eq_true.mp hp t ht)
    | identifier name | literal s =>
      cases List.mem_singleton.mp ht
      exact .inl rfl
    | param v =>
      cases List.mem_singleton.mp ht
      exact .inr rfl

/-- The names that the tokens of safe pieces stand for are those that the pieces quote. -/
lemma names_tokensOf (h : AllSafe d ok us) (n : Nat) :
    (tokensOf d n us).filterMap Token.name? = us.filterMap Piece.identifier? := by
  induction us generalizing n with
  | nil => rfl
  | cons p ps ih =>
    obtain ⟨hp, hps⟩ := List.forall_mem_cons.mp h
    rw [tokensOf, List.filterMap_append, ih hps]
    cases p with
    | word s =>
      have hnone : (wordTokens d s).filterMap Token.name? = [] := by
        refine List.filterMap_eq_nil_iff.mpr fun t ht => ?_
        have hharmless := List.all_eq_true.mp hp t ht
        cases t with
        | name s => cases hharmless
        | _ => rfl
      exact congrArg (· ++ ps.filterMap Piece.identifier?) hnone
    | _ => rfl

/-- The names in safe pieces are those that may be there. -/
lemma AllSafe.names (h : AllSafe d ok us) : ∀ name ∈ us.filterMap Piece.identifier?, ok name := by
  intro name hname
  obtain ⟨p, hp, hq⟩ := List.mem_filterMap.mp hname
  cases p with
  | identifier s =>
    cases hq
    exact h _ hp
  | _ => cases hq

end Safe

/-- No name gets out of its quotation marks.  The text of the statement of a query is scanned to its
end.  The names of its quoted identifiers are those in the tree of the statement, in order, and all
of them are names of tables and columns that the query reads.  At every place of the text that is
not inside quotation, no semicolon and no beginning of a comment stands. -/
theorem identifiers_quoted {d : Dialect} {q : Query} {st : Statement} (h : q.compile d = .ok st) :
    ∃ s ts, (ofQuery d q).result = .ok (.select s) ∧ tokens? d st.text = some ts ∧
      ts.filterMap Token.name? = (s.pieces d).filterMap Piece.identifier? ∧
      (∀ name ∈ ts.filterMap Token.name?, NameIn d q name) ∧
      ∀ us vs, st.text.toList = us ++ vs → (placeAfter d us).isInside = false →
        ∀ t ∈ terminators, ¬t.toList <+: vs := by
  obtain ⟨s, hs, ⟨hwritten, -⟩, -⟩ := Query.phrases?_of (admits_true _) h
  obtain ⟨f, hf, htext, -⟩ := Statement.of_eq_ok h
  cases hs.symm.trans hf
  have hsafe := select_allSafe hs
  have htokens : tokens? d st.text = some (tokensOf d 1 (s.pieces d)) := by
    rw [htext]
    exact (Select.prints s hwritten).scans.tokens? 1
  have hnames := names_tokensOf hsafe 1
  refine ⟨s, _, hs, htokens, hnames, ?_, fun us vs hsplit hplace => ?_⟩
  · rw [hnames]
    exact hsafe.names
  · rw [tokens?, hsplit] at htokens
    exact outside_of_scan? htokens (tokensOf_allSafe hsafe 1) hplace

/-- A table with names that look like the end of a quoted identifier and of a statement. -/
def hostileTable : Table :=
  .of "a]\"; --"
    [⟨"'/*", "Id", .int, false, true⟩, ⟨"];($p1", "Name", .text, true, false⟩] (by decide)

/-- Another table with such names. -/
def bracketTable : Table :=
  .of "]]" [⟨"[", "Name", .text, false, true⟩] (by decide)

/-- A query that counts distinct names that are found in the other table. -/
def hostileQuery : Query :=
  { Query.all hostileTable ⟨0⟩ with
    predicate := some (.exists (Query.all bracketTable ⟨1⟩)
      (some (.binary .equal (.column ⟨⟨1⟩, 0⟩) (.column ⟨⟨0⟩, 1⟩))))
    projection := [1]
    distinct := true
    terminal := .count }

/-- The names in the statement of the query stay inside their quotation marks. -/
theorem identifiers_quoted_hostile :
    ∃ st, hostileQuery.compile .sqlite = .ok st ∧
      ∃ s ts, (ofQuery .sqlite hostileQuery).result = .ok (.select s) ∧
        tokens? .sqlite st.text = some ts ∧
        ts.filterMap Token.name? = (s.pieces .sqlite).filterMap Piece.identifier? ∧
        (∀ name ∈ ts.filterMap Token.name?, NameIn .sqlite hostileQuery name) ∧
        ∀ us vs, st.text.toList = us ++ vs → (placeAfter .sqlite us).isInside = false →
          ∀ t ∈ terminators, ¬t.toList <+: vs := by
  obtain ⟨st, h⟩ := Query.exists_compile (d := .sqlite) (q := hostileQuery) rfl
  exact ⟨st, h, identifiers_quoted h⟩

end TableQuery.Sql
