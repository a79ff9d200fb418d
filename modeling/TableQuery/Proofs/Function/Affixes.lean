import TableQuery.Proofs.Emission.Call
import TableQuery.Proofs.Function.Evaluation
import TableQuery.Proofs.Schema.Index

/-!
# Tests for beginnings and ends

The tests that a text begins or ends with another.  Each compares a part of the text with the other
text.  How long the part is stands in the test if the other text is a constant, and is computed by
the server if not; and SQLite finds the end of a text by a negative position.

Either way, the test is true just of the texts that begin or end with the other text, be it empty or
longer than they are (`affixes_match`).
-/

namespace TableQuery.Sql

section Windows

variable {cs ps : List Char}

/-- A window from the first character on is the start of a text. -/
lemma window_first (n : ℕ) : window 1 (some n) cs = cs.take n := by
  show (cs.take (1 - 1 + (n : ℤ)).toNat).drop (1 - 1 : ℤ).toNat = cs.take n
  rw [sub_self, zero_add, Int.toNat_natCast, Int.toNat_zero, List.drop_zero]

/-- A window that begins a number of characters before the end has those characters, or all. -/
lemma window_last {n : ℕ} (hn : 0 < n) :
    window (firstPosition .sqlite (-n) cs) none cs = cs.rtake n := by
  have hfirst : firstPosition .sqlite (-n) cs = cs.length + 1 + -n := if_pos ⟨rfl, by omega⟩
  rw [hfirst, window, List.rtake]
  congr 1
  omega

/-- A window of a number of characters that begins as many before the end.  It may begin before the
text, and then it has fewer characters. -/
lemma window_last_counted (n : ℕ) :
    window (firstPosition .sqlite (-n) cs) (some n) cs = cs.rtake n := by
  rcases Nat.eq_zero_or_pos n with rfl | hn
  · -- Zero is not a negative position: the window is the empty one before the text.
    show (cs.take (0 - 1 + (0 : ℕ) : ℤ).toNat).drop (0 - 1 : ℤ).toNat = cs.rtake 0
    rw [List.rtake_zero]
    rfl
  · have hfirst : firstPosition .sqlite (-n) cs = cs.length + 1 + -n := if_pos ⟨rfl, by omega⟩
    have hlast : (cs.length + 1 + -n - 1 + n : ℤ).toNat = cs.length := by omega
    rw [hfirst, window, hlast, List.take_length, List.rtake]
    congr 1
    omega

/-- A text begins with another just if its start of that length is the other. -/
lemma take_length_eq_iff : cs.take ps.length = ps ↔ ps <+: cs := by
  rw [List.prefix_iff_eq_take, eq_comm]

/-- A text ends with another just if its end of that length is the other. -/
lemma rtake_length_eq_iff : cs.rtake ps.length = ps ↔ ps <:+ cs := by
  rw [List.suffix_iff_eq_drop, eq_comm]
  rfl

end Windows

section Parts

variable {d : Dialect} {given : Phrase → Option Datum} {a b l : Scalar} {s t : String} {n : ℕ}

/-- A part from the first character on is the start of a text. -/
lemma has_first (ha : a.Has d given (.text t)) (hl : l.Has d given (.number n)) :
    (Scalar.call .substring [a, .number 1, l]).Has d given (.text (.ofList (t.toList.take n))) := by
  obtain ⟨p, hap, hp⟩ := ha
  obtain ⟨count, hlp, hcount⟩ := hl
  have hphrases : (Scalar.call .substring [a, .number 1, l]).phrases d =
      [.call (Routine.name d .substring) [p, .mark ',', .word (toString 1), .mark ',', count]] := by
    rw [Scalar.phrases, scalarListPhrases, scalarListPhrases, scalarListPhrases, hap, hlp,
      Scalar.phrases]
    · rfl
    · exact List.cons_ne_nil _ _
    · exact List.cons_ne_nil _ _
  refine ⟨_, hphrases, ?_⟩
  have hone : Phrase.number? d given (.word (toString 1)) = some ((1 : ℕ) : ℤ) :=
    number?_of_datum? (datum?_numeral 1)
  have hnumbers : numbers? d given [.word (toString 1), .mark ',', count] = some [1, (n : ℤ)] := by
    rw [numbers?, numbers?, hone, number?_of_datum? hcount]
    rfl
  have hposition : firstPosition d 1 t.toList = 1 := if_neg (by omega)
  apply datum?_call hp hnumbers
  rw [← window_first, ← hposition]
  cases d <;> rfl

/-- The last characters of a text, as many as a value says, where the dialect has a function for
them. -/
lemma has_last (hd : d ≠ .sqlite) (ha : a.Has d given (.text t)) (hl : l.Has d given (.number n)) :
    (Scalar.call .suffix [a, l]).Has d given (.text (.ofList (t.toList.rtake n))) := by
  obtain ⟨p, hap, hp⟩ := ha
  obtain ⟨count, hlp, hcount⟩ := hl
  have hphrases : (Scalar.call .suffix [a, l]).phrases d =
      [.call (Routine.name d .suffix) [p, .mark ',', count]] := by
    rw [Scalar.phrases, scalarListPhrases, scalarListPhrases, hap, hlp]
    · rfl
    · exact List.cons_ne_nil _ _
  refine ⟨_, hphrases, ?_⟩
  have hnumbers : numbers? d given [count] = some [(n : ℤ)] := by
    rw [numbers?, number?_of_datum? hcount, Option.map_some]
  apply datum?_call hp hnumbers
  cases d with
  | sqlite => exact absurd rfl hd
  | _ => rfl

/-- The last characters of a text in SQLite, as many as a numeral says. -/
lemma has_last_numeral (hn : 0 < n) (ha : a.Has .sqlite given (.text t)) :
    (Scalar.call .substring [a, .negate (.number n)]).Has .sqlite given
      (.text (.ofList (t.toList.rtake n))) := by
  obtain ⟨p, hap, hp⟩ := ha
  have hphrases : (Scalar.call .substring [a, .negate (.number n)]).phrases .sqlite =
      [.call "substr" [p, .mark ',', .symbol "-", .word (toString n)]] := by
    rw [Scalar.phrases, scalarListPhrases, scalarListPhrases, hap, Scalar.phrases, Scalar.phrases]
    · rfl
    · exact List.cons_ne_nil _ _
  refine ⟨_, hphrases, ?_⟩
  have hnumeral : Phrase.number? .sqlite given (.word (toString n)) = some (n : ℤ) :=
    number?_of_datum? (datum?_numeral n)
  have hnumbers : numbers? .sqlite given [.symbol "-", .word (toString n)] = some [-(n : ℤ)] := by
    simp only [numbers?, if_true, hnumeral, Option.map_some, List.modifyHead]
  apply datum?_call hp hnumbers
  rw [← window_last hn]
  rfl

/-- The last characters of a text in SQLite, as many as another text has. -/
lemma has_last_counted (ha : a.Has .sqlite given (.text t)) (hb : b.Has .sqlite given (.text s)) :
    (Scalar.call .substring [a, .negate (.call .length [b]), .call .length [b]]).Has .sqlite given
      (.text (.ofList (t.toList.rtake s.toList.length))) := by
  obtain ⟨p, hap, hp⟩ := ha
  obtain ⟨q, hbq, hq⟩ := hb
  have hphrases :
      (Scalar.call .substring [a, .negate (.call .length [b]), .call .length [b]]).phrases .sqlite =
        [.call "substr" [p, .mark ',', .symbol "-", .call "length" [q], .mark ',',
          .call "length" [q]]] := by
    simp only [Scalar.phrases, scalarListPhrases, hap, hbq]
    rfl
  refine ⟨_, hphrases, ?_⟩
  have hlength := number?_of_datum? (datum?_call_text hq computedFrom_length)
  have hnumbers : numbers? .sqlite given
      [.symbol "-", .call "length" [q], .mark ',', .call "length" [q]] =
        some [-(s.toList.length : ℤ), (s.toList.length : ℤ)] := by
    rw [numbers?, if_pos rfl, numbers?, hlength, numbers?, hlength]
    · rfl
    · simp
    · simp
  -- The count is a length, so the window is not turned round.
  have hcounts : ¬ ((s.toList.length : ℤ) < 0) := by omega
  apply datum?_call hp hnumbers
  rw [← window_last_counted]
  simp only [computedFrom, if_neg hcounts]

end Parts

section Tests

variable {d : Dialect} {given : Phrase → Option Datum} {a b l : Scalar} {s t : String}

/-- A text whose first characters are compared with another, as many as the other has. -/
lemma holds?_first (ha : a.Has d given (.text t)) (hl : l.Has d given (.number s.toList.length))
    (hb : b.Has d given (.text s)) :
    holds? d given ((compared .equal (.call .substring [a, .number 1, l]) b).phrases d) =
      some (decide (s.toList <+: t.toList)) := by
  rw [holds?_compared (has_first ha hl) hb, Option.some_inj, decide_eq_decide, Datum.text.injEq,
    ← take_length_eq_iff, ← String.toList_inj, String.toList_ofList]

/-- A text whose last characters are compared with another, as many as the other has. -/
lemma holds?_last (ha : a.Has d given (.text (.ofList (t.toList.rtake s.toList.length))))
    (hb : b.Has d given (.text s)) :
    holds? d given ((compared .equal a b).phrases d) =
      some (decide (s.toList <:+ t.toList)) := by
  rw [holds?_compared ha hb, Option.some_inj, decide_eq_decide, Datum.text.injEq,
    ← rtake_length_eq_iff, ← String.toList_inj, String.toList_ofList]

end Tests

section Calls

variable {d : Dialect} {given : Phrase → Option Datum} {func : Func} {x pattern : Argument}
  {a b : Scalar} {s t : String}

/-- The test for a constant start has the truth value that it should. -/
lemma startsWith_constant (hx : x.scalar.result = .ok a) (ha : a.Has d given (.text t))
    (hconst : pattern.expr.isConst = true) (hfold : pattern.expr.fold = .ok (.text s)) :
    ∃ c, (Call.startsWith func x pattern).result = .ok c ∧
      holds? d given (c.phrases d) = some (decide (s.toList <+: t.toList)) := by
  have hresult : (Call.startsWith func x pattern).result =
      .ok (compared .equal (.call .substring [a, .number 1, .number s.length])
        (.param (.text s))) := by
    rw [Call.startsWith, Emit.result_bind_ok (Call.constantText?_constant hconst hfold),
      Emit.result_bind_ok hx]
    rfl
  refine ⟨_, hresult, ?_⟩
  rw [← String.length_toList]
  exact holds?_first ha (has_number _) has_text

/-- The test for a computed start has the truth value that it should. -/
lemma startsWith_computed (hd : d ≠ .sqlServer) (hx : x.scalar.result = .ok a)
    (ha : a.Has d given (.text t)) (hconst : pattern.expr.isConst = false)
    (hpattern : pattern.scalar.result = .ok b) (hb : b.Has d given (.text s)) :
    ∃ c, (Call.startsWith func x pattern).result = .ok c ∧
      holds? d given (c.phrases d) = some (decide (s.toList <+: t.toList)) := by
  have hresult : (Call.startsWith func x pattern).result =
      .ok (compared .equal (.call .substring [a, .number 1, .call .length [b]]) b) := by
    rw [Call.startsWith, Emit.result_bind_ok (Call.constantText?_computed hconst),
      Emit.result_bind_ok hx, Emit.result_bind_ok hpattern, Emit.result_bind_ok hpattern]
    rfl
  exact ⟨_, hresult, holds?_first ha (has_length hd hb) hb⟩

/-- A test for a constant end.  Every text ends with the empty one. -/
lemma endsWith_constant (hx : x.scalar.result = .ok a) (ha : a.Has d given (.text t))
    (hconst : pattern.expr.isConst = true) (hfold : pattern.expr.fold = .ok (.text s)) :
    ∃ c, (Call.endsWith d func x pattern).result = .ok c ∧
      holds? d given (c.phrases d) = some (decide (s.toList <:+ t.toList)) := by
  rw [Call.endsWith, Emit.result_bind_ok (Call.constantText?_constant hconst hfold)]
  dsimp only
  cases hs : s.isEmpty with
  | true =>
    have hends : s.toList <:+ t.toList := by
      rw [String.isEmpty_iff.mp hs]
      exact List.nil_suffix
    rw [if_pos rfl, decide_eq_true hends]
    exact ⟨truth true, rfl, holds?_compared (has_number 1) (has_number 1)⟩
  | false =>
    have hlength : 0 < s.toList.length := by
      apply List.length_pos_of_ne_nil
      intro hnil
      rw [String.toList_eq_nil_iff.mp hnil] at hs
      cases hs
    rw [if_neg Bool.false_ne_true, Emit.result_bind_ok hx]
    -- SQLite has no function for the end of a text: it takes a substring from a negative position.
    cases d with
    | sqlite =>
      refine ⟨_, rfl, ?_⟩
      rw [← String.length_toList]
      exact holds?_last (has_last_numeral hlength ha) has_text
    | _ =>
      refine ⟨_, rfl, ?_⟩
      rw [← String.length_toList]
      exact holds?_last (has_last (by decide) ha (has_number _)) has_text

/-- The test for a computed end has the truth value that it should. -/
lemma endsWith_computed (hd : d ≠ .sqlServer) (hx : x.scalar.result = .ok a)
    (ha : a.Has d given (.text t)) (hconst : pattern.expr.isConst = false)
    (hpattern : pattern.scalar.result = .ok b) (hb : b.Has d given (.text s)) :
    ∃ c, (Call.endsWith d func x pattern).result = .ok c ∧
      holds? d given (c.phrases d) = some (decide (s.toList <:+ t.toList)) := by
  rw [Call.endsWith, Emit.result_bind_ok (Call.constantText?_computed hconst),
    Emit.result_bind_ok hx, Emit.result_bind_ok hpattern]
  cases d with
  | sqlServer => exact absurd rfl hd
  | sqlite =>
    dsimp only
    rw [Emit.result_bind_ok hpattern, Emit.result_bind_ok rfl, Emit.result_bind_ok hpattern]
    exact ⟨_, rfl, holds?_last (has_last_counted ha hb) hb⟩
  | postgreSql =>
    dsimp only
    rw [Emit.result_bind_ok rfl, Emit.result_bind_ok hpattern]
    exact ⟨_, rfl, holds?_last (has_last (by decide) ha (has_length hd hb)) hb⟩

end Calls

/-- A pattern is a text: a constant has this value, and for anything else the server has it. -/
def PatternHas (d : Dialect) (given : Phrase → Option Datum) (q : Query) (p : Expr) (s : String) :
    Prop :=
  if p.isConst then p.fold = .ok (.text s) else OperandHas d given q p (.text s)

section Compilation

variable {d : Dialect} {given : Phrase → Option Datum} {q : Query} {x p : Expr} {s t : String}

/-- On SQL Server only constant patterns have a meaning here, as its function for the length of a
text does not count the spaces at the end. -/
lemma PatternHas.cases (h : PatternHas d given q p s) (hd : d = .sqlServer → p.isConst = true) :
    (p.isConst = true ∧ p.fold = .ok (.text s)) ∨
      p.isConst = false ∧ d ≠ .sqlServer ∧ OperandHas d given q p (.text s) := by
  unfold PatternHas at h
  cases hconst : p.isConst with
  | true =>
    rw [hconst, if_pos rfl] at h
    exact .inl ⟨rfl, h⟩
  | false =>
    rw [hconst, if_neg Bool.false_ne_true] at h
    refine .inr ⟨rfl, ?_, h⟩
    intro hserver
    rw [hd hserver] at hconst
    cases hconst

/-- A test is compiled if its condition has a tree, and its text has the truth value of this. -/
lemma holds?_of_condition {e : Expr} {v : Bool} (htest : e.isPredicate = true)
    (h : ∃ c, (formsOf e (Context.top d q)).condition.result = .ok c ∧
      holds? d given (c.phrases d) = some v) :
    ∃ st, e.compile d q = .ok st ∧ st.holds? d given = some v := by
  obtain ⟨c, hc, hv⟩ := h
  obtain ⟨st, hst, hread⟩ := Expr.exists_compile_test htest hc
  refine ⟨st, hst, ?_⟩
  rw [Statement.holds?, hread]
  exact hv

/-- The statement of a test for a start has the truth value that it should. -/
lemma compile_startsWith (hx : OperandHas d given q x (.text t)) (hp : PatternHas d given q p s)
    (hd : d = .sqlServer → p.isConst = true) :
    ∃ st, (Expr.call .startsWith [x, p]).compile d q = .ok st ∧
      st.holds? d given = some (decide (s.toList <+: t.toList)) := by
  apply holds?_of_condition rfl
  show ∃ c, (Call.startsWith _ ⟨x, _⟩ ⟨p, _⟩).result = .ok c ∧ _
  obtain ⟨a, hxa, ha⟩ := hx
  rcases hp.cases hd with ⟨hconst, hfold⟩ | ⟨hconst, hserver, b, hpb, hb⟩
  · exact startsWith_constant hxa ha hconst hfold
  · exact startsWith_computed hserver hxa ha hconst hpb hb

/-- The statement of a test for an end has the truth value that it should. -/
lemma compile_endsWith (hx : OperandHas d given q x (.text t)) (hp : PatternHas d given q p s)
    (hd : d = .sqlServer → p.isConst = true) :
    ∃ st, (Expr.call .endsWith [x, p]).compile d q = .ok st ∧
      st.holds? d given = some (decide (s.toList <:+ t.toList)) := by
  apply holds?_of_condition rfl
  show ∃ c, (Call.endsWith d _ ⟨x, _⟩ ⟨p, _⟩).result = .ok c ∧ _
  obtain ⟨a, hxa, ha⟩ := hx
  rcases hp.cases hd with ⟨hconst, hfold⟩ | ⟨hconst, hserver, b, hpb, hb⟩
  · exact endsWith_constant hxa ha hconst hfold
  · exact endsWith_computed hserver hxa ha hconst hpb hb

end Compilation

/-- The tests that a text begins or ends with another are true just of the texts that do, whether
the other text is a constant or the server has it.  Both are compiled and have a truth value if the
operands are texts, so this does not depend on which form of the test is taken. -/
theorem affixes_match (d : Dialect) (given : Phrase → Option Datum) (q : Query) (x p : Expr)
    (t s : String) (hx : OperandHas d given q x (.text t)) (hp : PatternHas d given q p s)
    (hd : d = .sqlServer → p.isConst = true) :
    (∃ st, (Expr.call .startsWith [x, p]).compile d q = .ok st ∧
      st.holds? d given = some (decide (s.toList <+: t.toList))) ∧
    ∃ st, (Expr.call .endsWith [x, p]).compile d q = .ok st ∧
      st.holds? d given = some (decide (s.toList <:+ t.toList)) :=
  ⟨compile_startsWith hx hp hd, compile_endsWith hx hp hd⟩

/-- A table of messages with their subjects and the marks of their threads. -/
def messageTable : Table :=
  .of "Message"
    [⟨"subject", "Subject", .text, false, false⟩,
      ⟨"mark", "Mark", .text, false, false⟩] (by decide)

/-- What a server has for the columns of a message. -/
def messageTexts : Phrase → Option Datum
  | .column none "subject" => some (.text "Re: plan")
  | .column none "mark" => some (.text "Re: ")
  | _ => none

/-- A subject begins with a constant, and it does not end with the text of another column. -/
theorem affixes_match_message :
    ∃ st st', (Expr.call .startsWith [.column ⟨⟨0⟩, 0⟩, .value (.text "Re: ")]).compile .sqlite
        (Query.all messageTable ⟨0⟩) = .ok st ∧
      (Expr.call .endsWith [.column ⟨⟨0⟩, 0⟩, .column ⟨⟨0⟩, 1⟩]).compile .sqlite
        (Query.all messageTable ⟨0⟩) = .ok st' ∧
      st.holds? .sqlite messageTexts = some true ∧
      st'.holds? .sqlite messageTexts = some false := by
  have hsubject : OperandHas .sqlite messageTexts (Query.all messageTable ⟨0⟩) (.column ⟨⟨0⟩, 0⟩)
      (.text "Re: plan") := ⟨_, rfl, _, rfl, datum?_column none "subject"⟩
  have hconstant : PatternHas .sqlite messageTexts (Query.all messageTable ⟨0⟩)
      (.value (.text "Re: ")) "Re: " := rfl
  have hcolumn : PatternHas .sqlite messageTexts (Query.all messageTable ⟨0⟩)
      (.column ⟨⟨0⟩, 1⟩) "Re: " := ⟨_, rfl, _, rfl, datum?_column none "mark"⟩
  obtain ⟨st, hst, hbegins⟩ :=
    (affixes_match _ _ _ _ _ _ _ hsubject hconstant (fun _ => rfl)).1
  obtain ⟨st', hst', hends⟩ := (affixes_match _ _ _ _ _ _ _ hsubject hcolumn nofun).2
  exact ⟨st, st', hst, hst', hbegins, hends⟩

end TableQuery.Sql
