import TableQuery.Proofs.Schema.Index
import TableQuery.Proofs.Statement

/-!
# Parameters

The marks of parameters in a text and the values of the parameters correspond one to one
(`parameters_correspond`).  Every value is bound at the place in the tree where its mark is written,
and the pieces of the tree are numbered in the order of their text.
-/

namespace TableQuery.Sql

variable {d : Dialect} {q : Query} {st : Statement}

/-- Values with the marks of their numbers are the marks and the values side by side. -/
lemma numbered_eq_zip (n : Nat) (vs : List Value) :
    numbered d n vs = ((List.range' n vs.length).map d.placeholder).zip vs := by
  induction vs generalizing n with
  | nil => rfl
  | cons v vs ih =>
    rw [numbered_cons, ih, List.length_cons, List.range'_succ, List.map_cons, List.zip_cons_cons]

/-- Marks of different numbers are different. -/
lemma nodup_placeholders (n k : Nat) : ((List.range' n k).map d.placeholder).Nodup :=
  List.Pairwise.map d.placeholder (fun _ _ hne h => hne (placeholder_injective h))
    List.nodup_range'

/-- In the text of every statement, scanned outside quotation from left to right, the marks of
parameters are those of the numbers from one on, each once, as many as there are parameters; no
parameter is null; and the named parameters are these marks in this order, each with its value. -/
theorem parameters_correspond
    (h : q.compile d = .ok st ∨ ∃ e : Expr, e.compile d q = .ok st) :
    ∃ marks, markers? d st.text = some marks ∧
      marks = (List.range' 1 st.parameters.length).map d.placeholder ∧ marks.Nodup ∧
      (∀ v ∈ st.parameters, v.isNull = false) ∧ st.named d = marks.zip st.parameters := by
  have hof : ∃ x : Emit Fragment, Statement.of d x = .ok st ∧
      x.Gives (Fragment.Carries (fun _ _ => True) q d) := by
    cases h with
    | inl h => exact ⟨_, h, ofQuery_carries (admits_true _)⟩
    | inr h =>
      obtain ⟨e, h⟩ := h
      exact ⟨_, h, ofExpr_carries (admits_true _)⟩
  obtain ⟨x, hx, hgives⟩ := hof
  obtain ⟨f, hf, htext, hparameters⟩ := Statement.of_eq_ok hx
  obtain ⟨hprints, hbound⟩ := (hgives f hf).prints
  rw [← hparameters] at hbound
  refine ⟨_, ?_, rfl, nodup_placeholders 1 st.parameters.length, ?_, ?_⟩
  · rw [htext, hprints.scans.markers?, hbound]
  · intro v hv
    rw [← hbound] at hv
    exact hprints.bound v hv
  · rw [Statement.named_eq, numbered_eq_zip]

/-- A table whose names have quotation marks and look like parameters. -/
def oddTable : Table :=
  .of "a]$p9" [⟨"@p1", "Id", .int, false, true⟩, ⟨"'$p2", "Name", .text, true, false⟩] (by decide)

/-- A query over the table with odd names that reads the table again in a subquery. -/
def oddQuery : Query :=
  { Query.all oddTable ⟨0⟩ with
    predicate := some (.binary .and
      (.binary .equal (.column ⟨⟨0⟩, 1⟩) (.value (.text "x")))
      (.inSubquery (.column ⟨⟨0⟩, 0⟩)
        { Query.all oddTable ⟨1⟩ with
          predicate := some (.binary .lessThan (.value (.int 3)) (.column ⟨⟨1⟩, 0⟩))
          projection := [0] })) }

/-- The statement of the query over the table with odd names. -/
def oddStatement : Statement where
  text := "SELECT * FROM [a]]$p9] WHERE ((['$p2] = $p1) and " ++
    "([@p1] IN (SELECT [@p1] FROM [a]]$p9] WHERE ([@p1] > $p2))))"
  parameters := [.text "x", .int 3]

set_option maxRecDepth 8000 in
/-- The marks of parameters in the statement of the query over the table with odd names. -/
theorem parameters_correspond_odd :
    oddQuery.compile .sqlite = .ok oddStatement ∧
      ∃ marks, markers? .sqlite oddStatement.text = some marks ∧
        marks = (List.range' 1 2).map Dialect.sqlite.placeholder ∧ marks.Nodup ∧
        (∀ v ∈ oddStatement.parameters, v.isNull = false) ∧
        oddStatement.named .sqlite = marks.zip oddStatement.parameters := by
  have h : oddQuery.compile .sqlite = .ok oddStatement := by rfl
  exact ⟨h, parameters_correspond (.inl h)⟩

end TableQuery.Sql
