import TableQuery.Proofs.Emission.Expression
import TableQuery.Proofs.Tree.Prints

/-!
# Statements as texts

A statement is a text with the values of its parameters.  Whatever it was compiled from, its text is
read as the phrases of a tree, with each parameter read as the value that has its number
(`Statement.phrases?_of`).
-/

namespace TableQuery.Sql

/-- Values with the marks of parameters numbered from `n`. -/
def numbered (d : Dialect) (n : Nat) (vs : List Value) : List (String × Value) :=
  vs.mapIdx fun i v => (d.placeholder (n + i), v)

/-- The value of a parameter, by its mark. -/
def valueOf (named : List (String × Value)) (mark : String) : Option Value := named.lookup mark

/-- The phrases of a statement, if its text can be read with its own parameters. -/
def Statement.phrases? (d : Dialect) (st : Statement) : Option (List Phrase) :=
  Sql.phrases? d (valueOf (st.named d)) st.text

/-- The phrases of a fragment. -/
def Fragment.phrases (d : Dialect) : Fragment → List Phrase
  | .select s => s.phrases d
  | .scalar x => x.phrases d
  | .condition c => c.phrases d

variable {d : Dialect}

/-- The first of some values has the first number, and the others those that follow. -/
lemma numbered_cons (n : Nat) (v : Value) (vs : List Value) :
    numbered d n (v :: vs) = (d.placeholder n, v) :: numbered d (n + 1) vs := by
  have hnext : (fun i v => (d.placeholder (n + (i + 1)), v)) =
      fun i (v : Value) => (d.placeholder (n + 1 + i), v) := by
    funext i v
    rw [Nat.add_assoc, Nat.add_comm 1 i]
  rw [numbered, List.mapIdx_cons, hnext, Nat.add_zero, numbered]

/-- A parameter has the value with its number. -/
lemma binds_numbered (n : Nat) (vs : List Value) : Binds d (valueOf (numbered d n vs)) n vs := by
  intro i v hv
  induction vs generalizing n i with
  | nil => cases hv
  | cons w ws ih =>
    rw [valueOf, numbered_cons]
    cases i with
    | zero =>
      cases hv
      simp
    | succ i =>
      have hne : (d.placeholder (n + (i + 1)) == d.placeholder n) = false := by
        rw [beq_eq_false_iff_ne]
        intro h
        have := placeholder_injective h
        omega
      rw [List.lookup_cons, hne]
      have htail := ih (n + 1) i hv
      rwa [Nat.add_assoc, Nat.add_comm 1 i] at htail

/-- The named parameters of a statement are its values numbered from one. -/
lemma Statement.named_eq (st : Statement) : st.named d = numbered d 1 st.parameters := by
  simp only [Statement.named, numbered, Nat.add_comm 1]

/-- A statement has the text and the values of what it was made from. -/
lemma Statement.of_eq_ok {x : Emit Fragment} {st : Statement} (h : Statement.of d x = .ok st) :
    ∃ f, x.result = .ok f ∧ st.text = piecesText d 1 (f.pieces d) ∧ st.parameters = x.bound := by
  unfold Statement.of at h
  cases hr : x.result with
  | error e =>
    rw [hr] at h
    cases h
  | ok f =>
    rw [hr] at h
    cases h
    exact ⟨f, rfl, rfl, rfl⟩

/-- A query is compiled if it has a tree. -/
lemma Query.exists_compile {q : Query} (h : (ofQuery d q).result.toOption.isSome = true) :
    ∃ st, q.compile d = .ok st := by
  unfold Query.compile Statement.of
  cases hr : (ofQuery d q).result with
  | error e =>
    rw [hr] at h
    cases h
  | ok f => exact ⟨_, rfl⟩

section Carries

variable {ok : List From → ColumnName → Prop} {q : Query} {f : Fragment} {vs : List Value}

/-- A fragment that is written as it should be prints its phrases. -/
theorem Fragment.Carries.prints (h : f.Carries ok q d vs) :
    Prints d (f.pieces d) (f.phrases d) ∧ boundValues (f.pieces d) = vs := by
  cases f with
  | select s => exact ⟨Select.prints s h.1, h.2⟩
  | scalar x => exact ⟨Scalar.prints x h.2.1, h.2.2⟩
  | condition c => exact ⟨Cond.prints c h.2.1, h.2.2⟩

/-- The text of a statement is read as the phrases of what it was made from. -/
theorem Statement.phrases?_of {x : Emit Fragment} {st : Statement} (h : Statement.of d x = .ok st)
    (hx : x.Gives (Fragment.Carries ok q d)) :
    ∃ f, x.result = .ok f ∧ f.Carries ok q d st.parameters ∧
      st.phrases? d = some (f.phrases d) := by
  obtain ⟨f, hf, htext, hparameters⟩ := Statement.of_eq_ok h
  have hcarries := hx f hf
  rw [← hparameters] at hcarries
  obtain ⟨hprints, hbound⟩ := hcarries.prints
  refine ⟨f, hf, hcarries, ?_⟩
  rw [Statement.phrases?, htext, Statement.named_eq]
  refine hprints.phrases? ?_
  rw [hbound]
  exact binds_numbered 1 st.parameters

/-- The statement of a query is read as the phrases of a tree. -/
theorem Query.phrases?_of {st : Statement} (hq : Admits ok (querySites q (Context.top d q)))
    (h : q.compile d = .ok st) :
    ∃ s, (ofQuery d q).result = .ok (.select s) ∧ s.Carries ok [] d st.parameters ∧
      st.phrases? d = some (s.phrases d) := by
  obtain ⟨f, hf, hcarries, hread⟩ := Statement.phrases?_of h (ofQuery_carries hq)
  have hselect : (ofQuery d q).Gives fun f _ => ∃ s, f = .select s :=
    (Select.of_carries rfl hq (queryFilter_carries q (Context.top d q) hq)).bind
      fun s _ _ => .pure ⟨s, rfl⟩
  obtain ⟨s, rfl⟩ := hselect f hf
  exact ⟨s, hf, hcarries, hread⟩

/-- An expression is compiled if it has a tree, and its text is read as the phrases of the tree. -/
lemma Expr.exists_compile {e : Expr} (h : (ofExpr d q e).result = .ok f) :
    ∃ st, e.compile d q = .ok st ∧ st.phrases? d = some (f.phrases d) := by
  obtain ⟨st, hst⟩ : ∃ st, e.compile d q = .ok st := by
    unfold Expr.compile Statement.of
    rw [h]
    exact ⟨_, rfl⟩
  obtain ⟨g, hg, -, hread⟩ := Statement.phrases?_of hst (ofExpr_carries (admits_true _))
  rw [h] at hg
  cases hg
  exact ⟨st, hst, hread⟩

/-- A test is compiled if its condition has a tree, and its text is read as the phrases of this. -/
lemma Expr.exists_compile_test {e : Expr} {c : Cond} (htest : e.isPredicate = true)
    (h : (formsOf e (Context.top d q)).condition.result = .ok c) :
    ∃ st, e.compile d q = .ok st ∧ st.phrases? d = some (c.phrases d) := by
  have hfragment : (ofExpr d q e).result = .ok (.condition c) := by
    rw [ofExpr, htest, if_pos rfl, Emit.result_bind_ok h]
    rfl
  exact Expr.exists_compile hfragment

/-- A compiled test has a condition. -/
lemma Expr.condition_of_compile {e : Expr} {st : Statement} (htest : e.isPredicate = true)
    (h : e.compile d q = .ok st) :
    ∃ c, (formsOf e (Context.top d q)).condition.result = .ok c := by
  obtain ⟨f, hf, -, -⟩ := Statement.of_eq_ok h
  rw [ofExpr, htest, if_pos rfl, Emit.result_bind] at hf
  obtain ⟨c, hc, -⟩ := ok_of_bind hf
  exact ⟨c, hc⟩

end Carries

end TableQuery.Sql
