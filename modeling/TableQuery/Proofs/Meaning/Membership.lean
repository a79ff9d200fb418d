import TableQuery.Proofs.Emission.Needs
import TableQuery.Proofs.Emission.Present
import TableQuery.Proofs.Meaning.Evaluation
import TableQuery.Proofs.Meaning.Folding
import TableQuery.Proofs.Schema.Index
import TableQuery.Proofs.Statement

/-!
# Membership in a list

To be a member of a list of values is to be equal to the first of them, or to the second, and so
on.  This holds for the value of a constant, and it holds for the texts of the tests on every row,
where a test may be unknown.  The text for a membership does not have the form of a disjunction: its
null members become one test for null, wherever they stand in the list (`membership_disjunction`).
-/

namespace TableQuery

section Folding

variable {e : Expr} {v m : Value} {ms : List Value}

/-- Null compares with nothing. -/
lemma Value.compare?_null (m : Value) : Value.null.compare? m = none := by
  cases m <;> rfl

/-- Two values are equal if both are null or if they compare as equal. -/
lemma comparison_equal (v m : Value) :
    Fold.comparison .equal v m =
      .ok (.bool ((v.isNull && m.isNull) || v.compare? m == some .eq)) := by
  rw [Fold.comparison]
  cases h : v.compare? m with
  | none =>
    dsimp only
    rw [if_pos rfl]
    simp
  | some o =>
    have hv : v.isNull = false := by
      cases v with
      | null =>
        rw [Value.compare?_null] at h
        cases h
      | _ => rfl
    cases o <;> simp [hv, Fold.satisfies]

/-- The value of a test for membership in a list. -/
lemma fold_inList_of_ok (h : e.fold = .ok v) :
    (Expr.inList e ms).fold = .ok (.bool (Fold.isMember v ms)) := by
  rw [Expr.fold, h]
  rfl

/-- The value of a comparison with a literal. -/
lemma fold_equal (h : e.fold = .ok v) :
    (Expr.binary .equal e (.value m)).fold =
      .ok (.bool ((v.isNull && m.isNull) || v.compare? m == some .eq)) := by
  have hm : (Expr.value m).fold = .ok m := by rw [Expr.fold]
  rw [fold_binary_of_both h rfl hm, ← comparison_equal]
  rfl

end Folding

namespace Sql

/-- What a server makes of the operands on a row, and of tests for equality. -/
structure Operands where
  /-- The values of the server. -/
  Carrier : Type
  /-- The value of an operand, unless it is null. -/
  value : Phrase → Option Carrier
  /-- Whether two values are equal. -/
  same : Carrier → Carrier → Bool
  /-- The numbers one and zero are values, and not equal. -/
  one_ne_zero : (do return same (← value (.word "1")) (← value (.word "0"))) = some false

/-- Whether two operands are equal, which is unknown if one of them is null. -/
def Operands.equal (row : Operands) (p q : Phrase) : Option Bool := do
  return row.same (← row.value p) (← row.value q)

/-- The disjunction of truth values. -/
def disjunction (ts : List (Option Bool)) : Option Bool := ts.foldr disjoined (some false)

/-- The phrases that stand with commas between them. -/
def separated? : List Phrase → Option (List Phrase)
  | [p] => some [p]
  | p :: .mark ',' :: ps => (separated? ps).map (p :: ·)
  | _ => none

/-- The truth value of a test for equality, for null or for membership, or of a disjunction of such
tests, if the phrases are one. -/
def truth? (row : Operands) : List Phrase → Option (Option Bool)
  | [p, .symbol s, q] => if s = "=" then some (row.equal p q) else none
  | [p, .word w, .word n] =>
    if w = "is" ∧ n = "null" then some (some (row.value p).isNone) else none
  | [p, .word w, .group ps] =>
    if w = "IN" then (separated? ps).map fun qs => disjunction (qs.map (row.equal p)) else none
  | p :: .word w :: .group ps :: .word o :: rest =>
    if w = "IN" ∧ o = "or" then do
      let among ← (separated? ps).map fun qs => disjunction (qs.map (row.equal p))
      return disjoined among (← truth? row rest)
    else none
  | _ => none

/-- The truth value of the text of a statement, with the parameters of the statement. -/
def Statement.truth? (d : Dialect) (row : Operands) (st : Statement) : Option (Option Bool) :=
  match st.phrases? d with
  | some [.group ps] => Sql.truth? row ps
  | _ => none

section Members

variable {row : Operands} {p : Phrase} {d : Dialect} {x : Scalar} {operand : Emit Scalar}
  {ms : List Value}

/-- A disjunction does not depend on the order of its two parts. -/
lemma disjoined_comm (a b : Option Bool) : disjoined a b = disjoined b a := by
  rcases a with _ | _ | _ <;> rcases b with _ | _ | _ <;> rfl

/-- A disjunction of three parts does not depend on how they are grouped. -/
lemma disjoined_assoc (a b c : Option Bool) :
    disjoined (disjoined a b) c = disjoined a (disjoined b c) := by
  rcases a with _ | _ | _ <;> rcases b with _ | _ | _ <;> rcases c with _ | _ | _ <;> rfl

/-- A disjunction of a part with itself is the part. -/
lemma disjoined_self (a : Option Bool) : disjoined a a = a := by
  rcases a with _ | _ | _ <;> rfl

/-- Whether an operand is a member, which is asked of null by a test for null. -/
def Operands.isMember (row : Operands) (p : Phrase) (m : Value) : Option Bool :=
  if m.isNull then some (row.value p).isNone else row.equal p (.value m)

/-- Whether an operand is one of the members that are not null. -/
def Operands.isPresent (row : Operands) (p : Phrase) (ms : List Value) : Option Bool :=
  disjunction ((Value.present ms).map fun m => row.equal p (.value m))

/-- The null members of a list can be asked for at the end, all at once. -/
lemma disjunction_isMember (ms : List Value) :
    disjunction (ms.map (row.isMember p)) =
      if ms.any Value.isNull then disjoined (row.isPresent p ms) (some (row.value p).isNone)
      else row.isPresent p ms := by
  induction ms with
  | nil => rfl
  | cons m ms ih =>
    show disjoined (row.isMember p m) (disjunction (ms.map (row.isMember p))) = _
    cases hm : m.isNull with
    | true =>
      have hmember : row.isMember p m = some (row.value p).isNone := by
        rw [Operands.isMember, if_pos hm]
      have hpresent : row.isPresent p (m :: ms) = row.isPresent p ms := by
        simp [Operands.isPresent, Value.present, hm]
      rw [List.any_cons, hm, Bool.true_or, if_pos rfl, hmember, hpresent, disjoined_comm, ih]
      split
      · rw [disjoined_assoc, disjoined_self]
      · rfl
    | false =>
      have hmember : row.isMember p m = row.equal p (.value m) := by
        rw [Operands.isMember, hm, if_neg Bool.false_ne_true]
      have hpresent : row.isPresent p (m :: ms) =
          disjoined (row.equal p (.value m)) (row.isPresent p ms) := by
        simp [Operands.isPresent, Value.present, hm, disjunction]
      rw [List.any_cons, hm, Bool.false_or, hmember, hpresent, ih]
      split
      · rw [disjoined_assoc]
      · rfl

/-- The parameters of a list are found between its commas. -/
lemma separated?_params {vs : List Value} (h : vs ≠ []) :
    separated? (scalarListPhrases d (vs.map .param)) = some (vs.map .value) := by
  induction vs with
  | nil => exact absurd rfl h
  | cons v vs ih =>
    cases vs with
    | nil => simp [scalarListPhrases, Scalar.phrases, separated?]
    | cons w ws =>
      have htail := ih (List.cons_ne_nil w ws)
      rw [List.map_cons, List.map_cons] at htail ⊢
      rw [scalarListPhrases, Scalar.phrases, List.singleton_append, separated?, htail]
      · rfl
      · exact List.cons_ne_nil _ _

/-- The test that nothing passes. -/
lemma truth?_false : truth? row [.word "1", .symbol "=", .word "0"] = some (some false) := by
  rw [truth?, if_pos rfl]
  exact congrArg some row.one_ne_zero

/-- The test for null. -/
lemma truth?_isNull :
    truth? row [p, .word "is", .word "null"] = some (some (row.value p).isNone) := by
  rw [truth?, if_pos ⟨rfl, rfl⟩]

/-- The members that are not null, as the list in a text. -/
lemma among_present (h : Value.present ms ≠ []) :
    ((separated? (scalarListPhrases d ((Value.present ms).map .param))).map fun qs =>
      disjunction (qs.map (row.equal p))) = some (row.isPresent p ms) := by
  rw [separated?_params h, Option.map_some, List.map_map]
  rfl

/-- The test for membership in a list without null. -/
lemma truth?_inList (h : Value.present ms ≠ []) :
    truth? row [p, .word "IN", .group (scalarListPhrases d ((Value.present ms).map .param))] =
      some (row.isPresent p ms) := by
  rw [truth?, if_pos rfl, among_present h]

/-- The test for membership in a list with null. -/
lemma truth?_inList_or (h : Value.present ms ≠ []) :
    truth? row [p, .word "IN", .group (scalarListPhrases d ((Value.present ms).map .param)),
      .word "or", p, .word "is", .word "null"] =
        some (disjoined (row.isPresent p ms) (some (row.value p).isNone)) := by
  rw [truth?, if_pos ⟨rfl, rfl⟩, among_present h, truth?_isNull]
  rfl

/-- The text for a membership has the truth value of the disjunction on every row. -/
lemma membership_truth (hx : operand.result = .ok x) (hxp : x.phrases d = [p])
    (ms : List Value) :
    ∃ c ps, (membership operand ms).result = .ok c ∧ c.phrases d = [.group ps] ∧
      ∀ row : Operands, truth? row ps = some (disjunction (ms.map (row.isMember p))) := by
  have hliterals : (literals (Value.present ms)).result = .ok ((Value.present ms).map .param) := by
    apply literals_result
    intro m hm
    simpa using (List.mem_filter.mp hm).2
  simp only [disjunction_isMember]
  unfold membership
  dsimp only
  -- Without present members there is no list to write, and without nulls no test for null.
  cases hpresent : (Value.present ms).isEmpty with
  | true =>
    have hnone : ∀ row : Operands, row.isPresent p ms = some false := by
      intro row
      rw [Operands.isPresent, List.isEmpty_iff.mp hpresent]
      rfl
    cases hnull : ms.any Value.isNull with
    | false =>
      refine ⟨truth false, [.word "1", .symbol "=", .word "0"], rfl, rfl, fun row => ?_⟩
      rw [if_neg Bool.false_ne_true, hnone, truth?_false]
    | true =>
      refine ⟨.paren (.isNull x), [p, .word "is", .word "null"], ?_, ?_, fun row => ?_⟩
      · rw [Emit.result_bind_ok hx]
        rfl
      · rw [Cond.phrases, Cond.phrases, hxp]
        rfl
      · rw [truth?_isNull, if_pos rfl, hnone]
        cases row.value p <;> rfl
  | false =>
    have hsome : Value.present ms ≠ [] := by
      intro hnil
      rw [hnil] at hpresent
      cases hpresent
    cases hnull : ms.any Value.isNull with
    | false =>
      refine ⟨.paren (.inList x ((Value.present ms).map .param)),
        [p, .word "IN", .group (scalarListPhrases d ((Value.present ms).map .param))], ?_, ?_,
        fun row => ?_⟩
      · rw [Emit.result_bind_ok hx, Emit.result_bind_ok hliterals]
        rfl
      · rw [Cond.phrases, Cond.phrases, hxp]
        rfl
      · exact truth?_inList hsome
    | true =>
      refine ⟨.paren (.or (.inList x ((Value.present ms).map .param)) (.isNull x)),
        [p, .word "IN", .group (scalarListPhrases d ((Value.present ms).map .param)), .word "or",
          p, .word "is", .word "null"], ?_, ?_, fun row => ?_⟩
      · rw [Emit.result_bind_ok hx, Emit.result_bind_ok hliterals, Emit.result_bind_ok hx]
        rfl
      · rw [Cond.phrases, Cond.phrases, Cond.phrases, Cond.phrases, hxp]
        rfl
      · exact truth?_inList_or hsome

/-- The text for an equality has the truth value of the single membership on every row. -/
lemma equality_truth (hx : operand.result = .ok x) (hxp : x.phrases d = [p]) (m : Value) :
    ∃ c ps, (againstConstant .equal operand (.value m)).result = .ok c ∧
      c.phrases d = [.group ps] ∧
      ∀ row : Operands, truth? row ps = some (row.isMember p m) := by
  have hconstant : (Emit.lift (constant (.value m))).result = .ok m := by
    rw [Emit.lift, constant, Expr.fold]
  rw [againstConstant, Emit.result_bind_ok hconstant]
  cases hm : m.isNull with
  | true =>
    refine ⟨.paren (.isNull x), [p, .word "is", .word "null"], ?_, ?_, fun row => ?_⟩
    · rw [if_pos rfl, Emit.result_bind_ok hx]
      rfl
    · rw [Cond.phrases, Cond.phrases, hxp]
      rfl
    · rw [truth?_isNull, Operands.isMember, hm, if_pos rfl]
  | false =>
    refine ⟨compared .equal x (.param m), [p, .symbol "=", .value m], ?_, ?_, fun row => ?_⟩
    · rw [if_neg Bool.false_ne_true, Emit.result_bind_ok hx,
        Emit.result_bind_ok (literal_result hm)]
      rfl
    · rw [compared, Cond.phrases, Cond.phrases, hxp]
      rfl
    · rw [truth?, if_pos rfl, Operands.isMember, hm, if_neg Bool.false_ne_true]

/-- A membership in a list with members reads the operand. -/
lemma operand_of_membership {c : Cond} (hms : ms ≠ [])
    (h : (membership operand ms).result = .ok c) : ∃ x, operand.result = .ok x := by
  have hmembers : ms.isEmpty = false := List.isEmpty_eq_false_iff.mpr hms
  exact membership_needs Emit.Needs.self hmembers c h

end Members

section Compilation

variable {d : Dialect} {q : Query} {e : Expr} {ms : List Value} {c : Cond} {ps : List Phrase}

/-- The condition that a test for membership in a list becomes. -/
lemma condition_inList (hconst : e.isConst = false) :
    (formsOf (.inList e ms) (Context.top d q)).condition =
      membership (formsOf e (Context.top d q)).scalar ms := by
  rw [formsOf, Forms.unlessConstant, Expr.isConst, hconst, if_neg Bool.false_ne_true]
  rfl

/-- The condition that a comparison with a literal becomes. -/
lemma condition_equal (hconst : e.isConst = false) (m : Value) :
    (formsOf (.binary .equal e (.value m)) (Context.top d q)).condition =
      againstConstant .equal (formsOf e (Context.top d q)).scalar (.value m) := by
  have hvalue : (Expr.value m).isConst = true := by rw [Expr.isConst]
  rw [formsOf, Forms.unlessConstant, Expr.isConst, hconst, Bool.false_and,
    if_neg Bool.false_ne_true]
  show comparison .equal e (.value m) _ _ = _
  rw [comparison, hconst, hvalue]

/-- The operand of a test is written as a single phrase. -/
lemma operand_phrase {x : Scalar}
    (h : (formsOf e (Context.top d q)).scalar.result = .ok x) : ∃ p, x.phrases d = [p] := by
  have hcarries := (formsOf_carry e (Context.top d q) (admits_true _)).2 x h
  have hsingle := Scalar.isSingle_of_isPrimary hcarries.1
  cases x with
  | atTimeZone y zone => cases hsingle
  | operator op l r => cases hsingle
  | concat l r => cases hsingle
  | negate y => cases hsingle
  | complement y => cases hsingle
  | case t y n => cases hsingle
  | _ => exact ⟨_, by rw [Scalar.phrases]⟩

/-- The truth value of a test is that of the phrases in its parentheses. -/
lemma truth?_of_condition (htest : e.isPredicate = true)
    (hc : (formsOf e (Context.top d q)).condition.result = .ok c)
    (hps : c.phrases d = [.group ps]) :
    ∃ st, e.compile d q = .ok st ∧ ∀ row : Operands, st.truth? d row = truth? row ps := by
  obtain ⟨st, hst, hread⟩ := Expr.exists_compile_test htest hc
  refine ⟨st, hst, fun row => ?_⟩
  rw [Statement.truth?, hread, hps]

/-- A membership in a list with members is compiled to the disjunction of equalities. -/
lemma compile_inList {st : Statement} (hconst : e.isConst = false) (hms : ms ≠ [])
    (h : (Expr.inList e ms).compile d q = .ok st) :
    ∃ test : Value → Statement,
      (∀ m ∈ ms, (Expr.binary .equal e (.value m)).compile d q = .ok (test m)) ∧
      ∀ row : Operands, ∃ t : Value → Option Bool,
        (∀ m ∈ ms, (test m).truth? d row = some (t m)) ∧
        st.truth? d row = some (disjunction (ms.map t)) := by
  obtain ⟨c, hc⟩ := Expr.condition_of_compile rfl h
  rw [condition_inList hconst] at hc
  obtain ⟨x, hx⟩ := operand_of_membership hms hc
  obtain ⟨p, hxp⟩ := operand_phrase hx
  have hequal : ∀ m, ∃ st, (Expr.binary .equal e (.value m)).compile d q = .ok st ∧
      ∀ row : Operands, st.truth? d row = some (row.isMember p m) := by
    intro m
    obtain ⟨c, ps, hc, hps, htruth⟩ := equality_truth hx hxp m
    rw [← condition_equal hconst] at hc
    obtain ⟨st, hst, hread⟩ := truth?_of_condition rfl hc hps
    exact ⟨st, hst, fun row => (hread row).trans (htruth row)⟩
  obtain ⟨c', ps, hc', hps, htruth⟩ := membership_truth hx hxp ms
  rw [← condition_inList hconst] at hc'
  obtain ⟨st', hst', hread⟩ := truth?_of_condition rfl hc' hps
  rw [h, Except.ok.injEq] at hst'
  choose test htest hvalue using hequal
  refine ⟨test, fun m _ => htest m, fun row => ⟨row.isMember p, fun m _ => hvalue m row, ?_⟩⟩
  rw [hst', hread, htruth]

end Compilation

/-- Membership in a list of values is the disjunction of the equalities with its members, with
duplicates and nulls anywhere.  It folds to true just if one of the equalities does.  If it is
compiled, then the equalities are, and on every row its text has the truth value of the disjunction
of theirs.  Nothing is a member of the empty list. -/
theorem membership_disjunction :
    (∀ e ms v, e.fold = .ok v → ∃ b, (Expr.inList e ms).fold = .ok (.bool b) ∧
      (b = true ↔ ∃ m ∈ ms, (Expr.binary .equal e (.value m)).fold = .ok (.bool true))) ∧
    (∀ d q e ms st, e.isConst = false → ms ≠ [] → (Expr.inList e ms).compile d q = .ok st →
      ∃ test : Value → Statement,
        (∀ m ∈ ms, (Expr.binary .equal e (.value m)).compile d q = .ok (test m)) ∧
        ∀ row : Operands, ∃ t : Value → Option Bool,
          (∀ m ∈ ms, (test m).truth? d row = some (t m)) ∧
          st.truth? d row = some (disjunction (ms.map t))) ∧
    ∀ d q e, e.isConst = false → ∃ st, (Expr.inList e []).compile d q = .ok st ∧
      ∀ row : Operands, st.truth? d row = some (some false) := by
  refine ⟨?fold, ?text, ?empty⟩
  case fold =>
    intro e ms v h
    refine ⟨_, fold_inList_of_ok h, ?_⟩
    simp only [fold_equal h, Fold.isMember, List.any_eq_true, Except.ok.injEq, Value.bool.injEq]
  case text =>
    intro d q e ms st hconst hms h
    exact compile_inList hconst hms h
  case empty =>
    intro d q e hconst
    have hc : (formsOf (.inList e []) (Context.top d q)).condition.result = .ok (truth false) := by
      rw [condition_inList hconst]
      rfl
    obtain ⟨st, hst, hread⟩ := truth?_of_condition rfl hc rfl
    exact ⟨st, hst, fun row => (hread row).trans truth?_false⟩

/-- A table of trays with the number of what lies on them. -/
def trayTable : Table :=
  .of "Tray" [⟨"item", "Item", .int, true, false⟩] (by decide)

/-- The row of a tray on which nothing lies. -/
def emptyTray : Operands where
  Carrier := Value
  value
    | .value v => some v
    | .word w => (Number.readInt64 w.toList).map .int
    | _ => none
  same a b := a.compare? b == some .eq
  one_ne_zero := by decide

/-- Three is a member of a list of constants.  For an empty tray, the text for a membership has the
truth value of the disjunction of the texts for the equalities, one of which is a test for null. -/
theorem membership_disjunction_tray :
    (Expr.inList (.value (.int 3)) [.null, .int 3]).fold = .ok (.bool true) ∧
    ∃ st, (Expr.inList (.column ⟨⟨0⟩, 0⟩) [.int 3, .null, .int 3]).compile .sqlite
        (Query.all trayTable ⟨0⟩) = .ok st ∧
      ∃ t : Value → Option Bool,
        (∀ m ∈ [.int 3, .null, .int 3], ∃ st', (Expr.binary .equal (.column ⟨⟨0⟩, 0⟩)
            (.value m)).compile .sqlite (Query.all trayTable ⟨0⟩) = .ok st' ∧
          st'.truth? .sqlite emptyTray = some (t m)) ∧
        st.truth? .sqlite emptyTray = some (disjunction [t (.int 3), t .null, t (.int 3)]) := by
  obtain ⟨hfold, htext, -⟩ := membership_disjunction
  refine ⟨?_, ?_⟩
  · obtain ⟨b, hb, hiff⟩ := hfold (.value (.int 3)) [.null, .int 3] (.int 3) rfl
    rw [hb, hiff.mpr ⟨.int 3, List.mem_cons_of_mem _ List.mem_cons_self, rfl⟩]
  · obtain ⟨st, hst, -⟩ := Expr.exists_compile_test (d := .sqlite) (q := Query.all trayTable ⟨0⟩)
      (e := .inList (.column ⟨⟨0⟩, 0⟩) [.int 3, .null, .int 3]) rfl rfl
    obtain ⟨test, htest, hrows⟩ := htext _ _ _ _ _ rfl (by simp) hst
    obtain ⟨t, hequal, htruth⟩ := hrows emptyTray
    exact ⟨st, hst, t, fun m hm => ⟨test m, htest m hm, hequal m hm⟩, htruth⟩

end Sql

end TableQuery
