import TableQuery.Proofs.Schema.Index
import TableQuery.Proofs.Shape.Sorts
import TableQuery.Proofs.Statement

/-!
# The shape of texts

What is written for an expression is a single phrase: a value that can stand anywhere, or a
condition in parentheses or after `EXISTS`, never both.  So whatever stands around it, it is read as
a whole, and parentheses match in every text (`shape_of_texts`).
-/

namespace TableQuery.Sql

variable {d : Dialect}

/-- The phrases of a text whose parameters are numbered from `n`. -/
def phrasesFrom? (d : Dialect) (n : Nat) (ps : List Piece) (vs : List Value) :
    Option (List Phrase) :=
  phrases? d (valueOf (numbered d n vs)) (piecesText d n ps)

/-- Pieces that print phrases are read as them, whatever the number of the first parameter. -/
lemma Prints.phrasesFrom? {us : List Piece} {ps : List Phrase} {vs : List Value}
    (h : Prints d us ps) (hv : boundValues us = vs) (n : Nat) :
    phrasesFrom? d n us vs = some ps := by
  subst hv
  exact h.phrases? (binds_numbered n (boundValues us))

/-- Values and conditions are different things.  Every value and every condition that is written for
an expression, in any place and with any numbers of its parameters, is a single phrase of its sort;
every statement follows the grammar; and the parentheses of each of these texts match. -/
theorem shape_of_texts :
    (∀ ps, IsScalar ps → ¬ IsCondition ps) ∧
    (∀ (ctx : Context) (e : Expr) (x : Scalar) (n : Nat), (formsOf e ctx).scalar.result = .ok x →
      (∃ p, phrasesFrom? ctx.dialect n (x.pieces ctx.dialect) (formsOf e ctx).scalar.bound =
          some [p] ∧ IsPrimary p ∧ ¬ IsTest p) ∧
        ∃ ts, tokens? ctx.dialect (piecesText ctx.dialect n (x.pieces ctx.dialect)) = some ts ∧
          Balanced ts) ∧
    (∀ (ctx : Context) (e : Expr) (c : Cond) (n : Nat), (formsOf e ctx).condition.result = .ok c →
      (∃ p, phrasesFrom? ctx.dialect n (c.pieces ctx.dialect) (formsOf e ctx).condition.bound =
          some [p] ∧ IsTest p ∧ ¬ IsPrimary p) ∧
        ∃ ts, tokens? ctx.dialect (piecesText ctx.dialect n (c.pieces ctx.dialect)) = some ts ∧
          Balanced ts) ∧
    ∀ (d : Dialect) (q : Query) (st : Statement), q.compile d = .ok st →
      (∃ ps, st.phrases? d = some ps ∧ IsStatement ps) ∧
        ∃ ts, tokens? d st.text = some ts ∧ Balanced ts := by
  refine ⟨IsScalar.not_isCondition, fun ctx e x n hx => ?_, fun ctx e c n hc => ?_,
    fun d q st hst => ?_⟩
  · obtain ⟨-, hscalar⟩ := formsOf_carry e ctx (admits_true _)
    obtain ⟨hprimary, hwritten, hbound⟩ := hscalar x hx
    have hread := (Scalar.prints x hwritten).phrasesFrom? hbound n
    obtain ⟨p, hp, hpp⟩ := (Scalar.follows x hwritten).primary hprimary
    rw [hp] at hread
    have hne : ¬ IsTest p := IsOperand.not_isTest p (.primary hpp)
    exact ⟨⟨p, hread, hpp, hne⟩, balanced_of_phrases? hread⟩
  · obtain ⟨hcondition, -⟩ := formsOf_carry e ctx (admits_true _)
    obtain ⟨hsingle, hwritten, hbound⟩ := hcondition c hc
    have hread := (Cond.prints c hwritten).phrasesFrom? hbound n
    obtain ⟨p, hp, hpp⟩ := (Cond.follows c hwritten).single hsingle
    rw [hp] at hread
    have hne : ¬ IsPrimary p := fun h => IsOperand.not_isTest p (.primary h) hpp
    exact ⟨⟨p, hread, hpp, hne⟩, balanced_of_phrases? hread⟩
  · obtain ⟨s, -, ⟨hwritten, -⟩, hread⟩ :=
      Query.phrases?_of (admits_true _) hst
    exact ⟨⟨s.phrases d, hread, Select.follows s hwritten⟩, balanced_of_phrases? hread⟩

/-- A table of marks. -/
def markTable : Table :=
  .of "marks" [⟨"value", "Value", .int, false, false⟩] (by decide)

/-- A negated choice by a negated test, for a query over the table of marks. -/
def markChoice : Expr :=
  .unary .not <| .binary .equal (.value (.int 0)) <|
    .conditional (.unary .not (.binary .lessThan (.column ⟨⟨0⟩, 0⟩) (.value (.int 5))))
      (.unary .negate (.column ⟨⟨0⟩, 0⟩)) (.value (.int 0))

/-- A query over the table of marks with the choice as its filter. -/
def markQuery : Query := { Query.all markTable ⟨0⟩ with predicate := some markChoice }

/-- The shape of what is written for the choice, as a value and as a condition, and for the
query. -/
theorem shape_of_texts_choice :
    ∃ x c st, (formsOf markChoice (Context.top .sqlite markQuery)).scalar.result = .ok x ∧
      (formsOf markChoice (Context.top .sqlite markQuery)).condition.result = .ok c ∧
      markQuery.compile .sqlite = .ok st ∧
      (∃ p, phrasesFrom? .sqlite 7 (x.pieces .sqlite)
          (formsOf markChoice (Context.top .sqlite markQuery)).scalar.bound = some [p] ∧
        IsPrimary p ∧ ¬ IsTest p) ∧
      (∃ p, phrasesFrom? .sqlite 7 (c.pieces .sqlite)
          (formsOf markChoice (Context.top .sqlite markQuery)).condition.bound = some [p] ∧
        IsTest p ∧ ¬ IsPrimary p) ∧
      ∃ ps, st.phrases? .sqlite = some ps ∧ IsStatement ps := by
  obtain ⟨-, hscalar, hcondition, hquery⟩ := shape_of_texts
  have hx : ∃ x, (formsOf markChoice (Context.top .sqlite markQuery)).scalar.result = .ok x :=
    ⟨_, rfl⟩
  have hc : ∃ c, (formsOf markChoice (Context.top .sqlite markQuery)).condition.result = .ok c :=
    ⟨_, rfl⟩
  have hst : ∃ st, markQuery.compile .sqlite = .ok st := ⟨_, rfl⟩
  obtain ⟨x, hx⟩ := hx
  obtain ⟨c, hc⟩ := hc
  obtain ⟨st, hst⟩ := hst
  exact ⟨x, c, st, hx, hc, hst, (hscalar _ _ x 7 hx).1, (hcondition _ _ c 7 hc).1,
    (hquery _ _ st hst).1⟩

end TableQuery.Sql
