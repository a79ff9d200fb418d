import TableQuery.Proofs.Statement

/-!
# Shared parameters

Several queries and expressions may be compiled one after another against one list of parameters
(`Parameters.run`).  Each of them gives the statement that it is compiled to on its own, but for the
numbers of its parameters, which go on where those before it ended; and the list gains what the
compilation of each binds, one after another, also where one fails (`run_renumbers`).  Hence the
marks of parameters in the texts are all different.
-/

namespace TableQuery.Sql

/-- What is compiled: a query, or an expression over the row of one. -/
inductive Request where
  | query (q : Query)
  | expr (q : Query) (e : Expr)

/-- The compilation of a request. -/
def Request.emit (d : Dialect) : Request → Emit Fragment
  | query q => ofQuery d q
  | expr q e => ofExpr d q e

/-- The statement of a request on its own, with its parameters numbered from one. -/
def Request.compile (d : Dialect) : Request → Except Error Statement
  | query q => q.compile d
  | expr q e => e.compile d q

/-- The values that several requests bind, each up to its end or its failure. -/
def Request.bindings (d : Dialect) (rs : List Request) : List Value :=
  rs.flatMap fun r => (r.emit d).bound

/-- The outcomes of several requests that share their parameters, and the parameters in the end. -/
def Parameters.run (d : Dialect) :
    Parameters → List Request → List (Except Error String) × Parameters
  | p, [] => ([], p)
  | p, r :: rs =>
    let (outcome, next) := p.add d (r.emit d)
    let (outcomes, last) := next.run d rs
    (outcome :: outcomes, last)

/-- Whether two outcomes have no mark of a parameter in common, if they are texts. -/
def Apart (d : Dialect) (a b : Except Error String) : Prop :=
  ∀ s t, a = .ok s → b = .ok t →
    ∃ ms ns, markers? d s = some ms ∧ markers? d t = some ns ∧ ∀ m ∈ ms, m ∉ ns

variable {d : Dialect} {p : Parameters} {r : Request} {rs : List Request} {start : Nat}
  {values : List Value}

/-- The pieces of a request are read by themselves and have the values that it binds. -/
lemma Request.scans {f : Fragment} (h : (r.emit d).result = .ok f) :
    Scans d (f.pieces d) ∧ boundValues (f.pieces d) = (r.emit d).bound := by
  cases r with
  | query q =>
    obtain ⟨hprints, hbound⟩ := (ofQuery_carries (admits_true _) f h).prints
    exact ⟨hprints.scans, hbound⟩
  | expr q e =>
    obtain ⟨hprints, hbound⟩ := (ofExpr_carries (admits_true _) f h).prints
    exact ⟨hprints.scans, hbound⟩

/-- The statement of a request is made of its pieces, numbered from one. -/
lemma Request.compile_eq (d : Dialect) (r : Request) : r.compile d = Statement.of d (r.emit d) := by
  cases r <;> rfl

/-- The parameters of a statement are what its compilation binds. -/
lemma Request.parameters_of_compile {st : Statement} (h : r.compile d = .ok st) :
    st.parameters = (r.emit d).bound := by
  rw [compile_eq] at h
  obtain ⟨-, -, -, hparameters⟩ := Statement.of_eq_ok h
  exact hparameters

/-- With shared parameters, a request gives the text that it is compiled to, renumbered, or fails as
it does on its own; and it adds what its compilation binds. -/
lemma Parameters.add_eq (r : Request) :
    (⟨start + 1, values⟩ : Parameters).add d (r.emit d) =
      ((r.compile d).map fun st => renumber d (start + values.length) st.text,
        ⟨start + 1, values ++ (r.emit d).bound⟩) := by
  rw [Request.compile_eq, Statement.of, Parameters.add]
  cases h : (r.emit d).result with
  | error e => rfl
  | ok f =>
    have hnumber : start + 1 + values.length = 1 + (start + values.length) := by omega
    have htext := (Request.scans h).1.renumber (start + values.length) 1
    rw [← hnumber] at htext
    simp only [Except.map, htext]

/-- The marks of parameters in the text of a request are numbered from the next number on. -/
lemma Parameters.markers?_add {s : String} (h : (p.add d (r.emit d)).1 = .ok s) :
    markers? d s = some ((List.range' (p.start + p.values.length)
      (r.emit d).bound.length).map d.placeholder) := by
  unfold Parameters.add at h
  cases hf : (r.emit d).result with
  | error e =>
    rw [hf] at h
    cases h
  | ok f =>
    rw [hf] at h
    cases h
    obtain ⟨hscans, hbound⟩ := Request.scans hf
    rw [hscans.markers?, hbound]

/-- The numbers of the parameters in the texts of several requests begin at the next number. -/
lemma Parameters.markers?_run {s : String} (h : .ok s ∈ (p.run d rs).1) :
    ∃ n k, p.start + p.values.length ≤ n ∧
      markers? d s = some ((List.range' n k).map d.placeholder) := by
  induction rs generalizing p with
  | nil => cases h
  | cons r rs ih =>
    obtain h | h := List.mem_cons.mp h
    · exact ⟨_, _, Nat.le_refl _, markers?_add h.symm⟩
    · obtain ⟨n, k, hn, hmarks⟩ := ih h
      refine ⟨n, k, Nat.le_trans ?_ hn, hmarks⟩
      simp only [List.length_append]
      omega

/-- Several requests that share their parameters have no mark of a parameter in common. -/
lemma Parameters.pairwise_run : (p.run d rs).1.Pairwise (Apart d) := by
  induction rs generalizing p with
  | nil => exact .nil
  | cons r rs ih =>
    refine .cons ?_ ih
    rintro b hb s s' hs rfl
    -- The numbers of the later texts begin where those of the first one end, even if values were
    -- bound in between by requests that failed.
    obtain ⟨n, k, hn, hmarks⟩ := markers?_run hb
    refine ⟨_, _, markers?_add hs, hmarks, ?_⟩
    intro m hm hm'
    obtain ⟨i, hi, rfl⟩ := List.mem_map.mp hm
    obtain ⟨j, hj, hij⟩ := List.mem_map.mp hm'
    cases placeholder_injective hij
    simp only [List.length_append] at hn
    rw [List.mem_range'_1] at hi hj
    omega

/-- What a first request binds comes before what the others bind. -/
lemma Request.bindings_cons (r : Request) (rs : List Request) :
    values ++ bindings d (r :: rs) = values ++ (r.emit d).bound ++ bindings d rs := by
  rw [bindings, List.flatMap_cons, List.append_assoc, bindings]

/-- With shared parameters, each of several requests gives what it is compiled to, renumbered, and
they add what they bind. -/
lemma Parameters.run_eq (rs : List Request) :
    (⟨start + 1, values⟩ : Parameters).run d rs =
      (rs.mapIdx fun i r => (r.compile d).map fun st =>
          renumber d (start + (values ++ Request.bindings d (rs.take i)).length) st.text,
        ⟨start + 1, values ++ Request.bindings d rs⟩) := by
  induction rs generalizing values with
  | nil => simp [run, Request.bindings]
  | cons r rs ih =>
    have hfirst : values ++ Request.bindings d [] = values := by simp [Request.bindings]
    rw [run, add_eq]
    simp only [ih, List.mapIdx_cons, List.take_zero, List.take_succ_cons, hfirst,
      Request.bindings_cons]

/-- Let requests be compiled one after another against parameters of which some values are there and
the first has number `start + 1`.  Then each request fails as it does when it is compiled on its
own, or gives the text of its statement with the numbers of its parameters raised by `start` and by
the number of values that were there before it.  In the end the values are those that were there and
those that the compilation of each request binds, up to its failure if it fails; for one that
succeeds, these are the parameters of its statement.  And no two texts have the mark of a parameter
in common. -/
theorem run_renumbers (d : Dialect) (start : Nat) (values : List Value) (rs : List Request) :
    (⟨start + 1, values⟩ : Parameters).run d rs =
      (rs.mapIdx fun i r => (r.compile d).map fun st =>
          renumber d (start + (values ++ Request.bindings d (rs.take i)).length) st.text,
        ⟨start + 1, values ++ Request.bindings d rs⟩) ∧
      (∀ r ∈ rs, ∀ st, r.compile d = .ok st → st.parameters = (r.emit d).bound) ∧
      ((⟨start + 1, values⟩ : Parameters).run d rs).1.Pairwise (Apart d) :=
  ⟨Parameters.run_eq rs, fun _ _ _ => Request.parameters_of_compile, Parameters.pairwise_run⟩

end TableQuery.Sql
