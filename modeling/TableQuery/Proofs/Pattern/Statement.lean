import TableQuery.Proofs.Pattern.Escaping
import TableQuery.Proofs.Schema.Index
import TableQuery.Proofs.Statement

/-!
# Tests that ignore case

What a server makes of the text of a test that a text begins or ends with another, ignoring case.
The test is written with `LIKE`, and its pattern is a constant or is computed by the server with
calls of `replace`.  What the server has for the phrases of the two operands is a parameter.

Either way, the test accepts the texts that begin or end with the other text, character by
character, whatever wildcards this has (`ignoreCase_matches`).
-/

namespace TableQuery.Sql

open Call (escaped escapedByServer wildcards)

section Evaluation

variable (d : Dialect) (k : Collation) (given : Phrase → Option String)

mutual

/-- The text of a phrase: parameters and literals, replacements, and two texts that are joined.
Other phrases have the texts that are given for them. -/
def Phrase.text? : Phrase → Option String
  | .value (.text s) | .literal s => some s
  | .call f ps =>
    if f = Routine.name d .replace then replacedText? ps else given (.call f ps)
  | .group ps => (joinedText? ps).or (given (.group ps))
  | p => given p

/-- The text of a replacement of one text by another in a third. -/
def replacedText? : List Phrase → Option String
  | [p, .mark ',', old, .mark ',', new] => do
    let text ← p.text?
    return .ofList (replaceAll (← old.text?).toList (← new.text?).toList text.toList)
  | _ => none

/-- The text of two phrases with the sign between them that joins texts. -/
def joinedText? : List Phrase → Option String
  | [p, .symbol s, q] => if s = concatSign d then do return (← p.text?) ++ (← q.text?) else none
  | _ => none

end

/-- The escape character of a pattern.  PostgreSQL has one also if none is named. -/
def escapeOf (named : Option Char) : Option Char :=
  named.or (if d = .postgreSql then some '\\' else none)

/-- Whether a text matches a pattern, if both have texts and the pattern has a meaning. -/
def matchTest? (named : Option Char) (p pattern : Phrase) : Option Bool := do
  let text ← p.text? d given
  let items ← readPattern d (escapeOf d named) .between (← pattern.text? d given).toList
  return matchesItems k items text.toList

/-- The character that a phrase names. -/
def namedChar? : Phrase → Option Char
  | .literal s =>
    match s.toList with
    | [c] => some c
    | _ => none
  | _ => none

/-- The truth value of a test in parentheses. -/
def test? : List Phrase → Option Bool
  | [.group [p, .word w, pattern]] =>
    if w = d.likeKeyword then matchTest? d k given none p pattern else none
  | [.group [p, .word w, pattern, .word e, c]] =>
    if w = d.likeKeyword ∧ e = "ESCAPE" then
      (namedChar? c).bind fun c => matchTest? d k given (some c) p pattern
    else none
  | _ => none

/-- The truth value of the text of a statement, with the parameters of the statement. -/
def Statement.test? (st : Statement) : Option Bool :=
  (st.phrases? d).bind (Sql.test? d k given)

/-- The text that a server has for the phrase that a value is written as. -/
def Scalar.text? (x : Scalar) : Option String :=
  match x.phrases d with
  | [p] => p.text? d given
  | _ => none

variable (q : Query)

/-- The text that a server has for an operand. -/
def operandText? (e : Expr) : Option String :=
  match (formsOf e (Context.top d q)).scalar.result with
  | .ok x => x.text? d given
  | .error _ => none

/-- The text that a pattern is made from: that of a constant, or the one that a server has. -/
def patternText? (e : Expr) : Option String :=
  if e.isConst then
    match e.fold with
    | .ok (.text s) => some s
    | _ => none
  else operandText? d given q e

end Evaluation

section Patterns

variable {d : Dialect} {k : Collation} {given : Phrase → Option String}

/-- The server replaces what it is told to. -/
lemma text?_replace {p old new : Phrase} {s a b : String} (hp : p.text? d given = some s)
    (hold : old.text? d given = some a) (hnew : new.text? d given = some b) :
    Phrase.text? d given
        (.call (Routine.name d .replace) [p, .mark ',', old, .mark ',', new]) =
      some (.ofList (replaceAll a.toList b.toList s.toList)) := by
  rw [Phrase.text?, if_pos rfl, replacedText?, hp, hold, hnew]
  rfl

/-- The server puts one text after the other. -/
lemma text?_joined {p q : Phrase} {s t : String} (hp : p.text? d given = some s)
    (hq : q.text? d given = some t) :
    Phrase.text? d given (.group [p, .symbol (concatSign d), q]) = some (s ++ t) := by
  rw [Phrase.text?, joinedText?, if_pos rfl, hp, hq]
  rfl

/-- The wildcards of a text are escaped by the server as they are in a constant. -/
theorem escapedByServer_text {x : Scalar} {p : Phrase} {s : String} (hx : x.phrases d = [p])
    (hp : p.text? d given = some s) :
    ∃ p', (escapedByServer d x).phrases d = [p'] ∧
      p'.text? d given = some (.ofList (escaped d s.toList)) := by
  -- One replacement after another, for all the wildcards.
  have hfold : ∀ (cs : List Char) (x : Scalar) (p : Phrase) (s : String), x.phrases d = [p] →
      p.text? d given = some s →
      ∃ p', (cs.foldl (fun x c => Scalar.call .replace
          [x, .text (String.ofList [c]), .text (String.ofList ['\\', c])]) x).phrases d = [p'] ∧
        p'.text? d given =
          some (.ofList (cs.foldl (fun t c => replaceAll [c] ['\\', c] t) s.toList)) := by
    intro cs
    induction cs with
    | nil =>
      intro x p s hx hp
      refine ⟨p, hx, ?_⟩
      rw [hp, List.foldl_nil, String.ofList_toList]
    | cons c cs ih =>
      intro x p s hx hp
      have hcall : (Scalar.call .replace
          [x, .text (String.ofList [c]), .text (String.ofList ['\\', c])]).phrases d =
            [.call (Routine.name d .replace) [p, .mark ',', .literal (String.ofList [c]),
              .mark ',', .literal (String.ofList ['\\', c])]] := by
        simp [Scalar.phrases, scalarListPhrases, hx]
      have htext : Phrase.text? d given (.call (Routine.name d .replace) [p, .mark ',',
          .literal (String.ofList [c]), .mark ',', .literal (String.ofList ['\\', c])]) =
            some (.ofList (replaceAll (String.ofList [c]).toList
              (String.ofList ['\\', c]).toList s.toList)) :=
        text?_replace hp rfl rfl
      have hstep := ih _ _ _ hcall htext
      rwa [String.toList_ofList, String.toList_ofList, String.toList_ofList] at hstep
  rw [← escape_stepwise]
  exact hfold (wildcards d) x p s hx hp

/-- The pattern for the texts that begin or end with a text. -/
def affixPattern (d : Dialect) (atStart : Bool) (s : List Char) : List Char :=
  if atStart then escaped d s ++ ['%'] else '%' :: escaped d s

/-- Whether a text begins or ends with what is the same as another text. -/
def Collation.HasAffix (k : Collation) (atStart : Bool) (t s : List Char) : Prop :=
  if atStart then k.HasPrefix t s else k.HasSuffix t s

/-- The pattern that is made from a text matches the texts that begin or end with it, if the
backslash is the escape character or is not needed. -/
lemma affixPattern_matches {escape : Option Char} {s : List Char} (atStart : Bool)
    (hescape : escape = some '\\' ∨ escape = none ∧ ∀ c ∈ s, c ∉ wildcards d) :
    ∃ items, readPattern d escape .between (affixPattern d atStart s) = some items ∧
      ∀ t, matchesItems k items t = true ↔ k.HasAffix atStart t s := by
  have hrun : ∀ cs, readPattern d escape .between ('%' :: cs) =
      (readPattern d escape .between cs).map (.run :: ·) := by
    intro cs
    have hne : escape ≠ some '%' := by
      obtain rfl | ⟨rfl, -⟩ := hescape
      · decide
      · nofun
    rw [readPattern, if_neg hne, if_pos rfl]
  cases atStart with
  | true =>
    refine ⟨s.map .char ++ [PatternItem.run], ?_, fun t => matches_prefix⟩
    have hread := readPattern_escaped hescape ['%']
    rw [hrun] at hread
    exact hread
  | false =>
    refine ⟨.run :: s.map .char, ?_, fun t => matches_suffix⟩
    have hread := readPattern_escaped hescape []
    rw [List.append_nil] at hread
    refine (hrun _).trans ?_
    rw [hread]
    simp [readPattern]

/-- The match with a pattern that is escaped tests for the start or the end of a text. -/
lemma matchTest?_affix {named : Option Char} {p pattern : Phrase} {s t : String} (atStart : Bool)
    (hp : p.text? d given = some t)
    (hpattern : pattern.text? d given = some (.ofList (affixPattern d atStart s.toList)))
    (hescape : escapeOf d named = some '\\' ∨
      escapeOf d named = none ∧ ∀ c ∈ s.toList, c ∉ wildcards d) :
    ∃ b, matchTest? d k given named p pattern = some b ∧
      (b = true ↔ k.HasAffix atStart t.toList s.toList) := by
  obtain ⟨items, hread, hmatches⟩ := affixPattern_matches (k := k) atStart hescape
  refine ⟨_, ?_, hmatches t.toList⟩
  rw [matchTest?, hp, hpattern]
  simp only [Option.bind_eq_bind, Option.bind_some, String.toList_ofList, hread]
  rfl

/-- The test of a match, in parentheses. -/
lemma test?_like {x y : Scalar} {p pattern : Phrase} (hx : x.phrases d = [p])
    (hy : y.phrases d = [pattern]) (escapes : Bool) :
    test? d k given ((Cond.paren (.like x y escapes)).phrases d) =
      matchTest? d k given (if escapes then some '\\' else none) p pattern := by
  cases escapes with
  | true =>
    have hphrases : (Cond.paren (.like x y true)).phrases d =
        [.group [p, .word d.likeKeyword, pattern, .word "ESCAPE", .literal "\\"]] := by
      simp [Cond.phrases, hx, hy]
    rw [hphrases, test?, if_pos ⟨rfl, rfl⟩]
    rfl
  | false =>
    have hphrases : (Cond.paren (.like x y false)).phrases d =
        [.group [p, .word d.likeKeyword, pattern]] := by
      simp [Cond.phrases, hx, hy]
    rw [hphrases, test?, if_pos rfl]
    rfl

end Patterns

section Emission

variable {d : Dialect} {k : Collation} {given : Phrase → Option String} {q : Query} {x p : Expr}

/-- The match with a constant text. -/
lemma like_constant {func : Func} {atStart : Bool} {text pattern : Argument} {a : Scalar}
    {s : String} (htext : text.scalar.result = .ok a) (hconst : pattern.expr.isConst = true)
    (hfold : pattern.expr.fold = .ok (.text s)) :
    (Call.like d func atStart text pattern).result =
      .ok (.paren (.like a (.param (.text (.ofList (affixPattern d atStart s.toList))))
        (escaped d s.toList != s.toList))) := by
  rw [Call.like, Emit.result_bind_ok (Call.constantText?_constant hconst hfold),
    Emit.result_bind_ok htext]
  rfl

/-- The match with a computed text. -/
lemma like_computed {func : Func} {atStart : Bool} {text pattern : Argument} {a b : Scalar}
    (htext : text.scalar.result = .ok a) (hconst : pattern.expr.isConst = false)
    (hpattern : pattern.scalar.result = .ok b) :
    (Call.like d func atStart text pattern).result =
      .ok (.paren (.like a (.paren (if atStart then .concat (escapedByServer d b) (.text "%")
        else .concat (.text "%") (escapedByServer d b))) true)) := by
  rw [Call.like, Emit.result_bind_ok (Call.constantText?_computed hconst),
    Emit.result_bind_ok htext, Emit.result_bind_ok hpattern]
  rfl

/-- The test that a text begins or ends with another, ignoring case. -/
def ignoreCaseTest (atStart : Bool) : Func :=
  if atStart then .startsWithIgnoreCase else .endsWithIgnoreCase

/-- A test that ignores case is compiled if its condition has a tree, and its text is read as the
phrases of this. -/
lemma compile_ignoreCase {atStart : Bool} {c : Cond}
    (h : (Call.like d (ignoreCaseTest atStart) atStart
      ⟨x, (formsOf x (Context.top d q)).scalar⟩ ⟨p, (formsOf p (Context.top d q)).scalar⟩).result =
        .ok c) :
    ∃ st, (Expr.call (ignoreCaseTest atStart) [x, p]).compile d q = .ok st ∧
      st.phrases? d = some (c.phrases d) := by
  cases atStart with
  | true => exact Expr.exists_compile_test rfl h
  | false => exact Expr.exists_compile_test rfl h

/-- An operand that has a text is written as a phrase that has it. -/
lemma phrase_of_operandText? {t : String} (h : operandText? d given q x = some t) :
    ∃ a r, (formsOf x (Context.top d q)).scalar.result = .ok a ∧ a.phrases d = [r] ∧
      r.text? d given = some t := by
  unfold operandText? at h
  cases ha : (formsOf x (Context.top d q)).scalar.result with
  | error e =>
    rw [ha] at h
    cases h
  | ok a =>
    rw [ha] at h
    dsimp only [Scalar.text?] at h
    split at h
    case h_1 r hr => exact ⟨a, r, rfl, hr, h⟩
    case h_2 => cases h

/-- The text of a pattern is that of a constant or of an operand. -/
lemma patternText?_cases {s : String} (h : patternText? d given q p = some s) :
    (p.isConst = true ∧ p.fold = .ok (.text s)) ∨
      p.isConst = false ∧ operandText? d given q p = some s := by
  unfold patternText? at h
  cases hconst : p.isConst with
  | true =>
    rw [hconst, if_pos rfl] at h
    split at h
    case h_1 w hfold =>
      cases h
      exact .inl ⟨rfl, hfold⟩
    case h_2 => cases h
  | false =>
    rw [hconst] at h
    exact .inr ⟨rfl, h⟩

/-- A test with a constant pattern names an escape character just if it is needed. -/
lemma escapeOf_needed (s : List Char) :
    escapeOf d (if escaped d s != s then some '\\' else none) = some '\\' ∨
      escapeOf d (if escaped d s != s then some '\\' else none) = none ∧
        ∀ c ∈ s, c ∉ wildcards d := by
  by_cases hs : escaped d s = s
  case pos =>
    rw [bne_eq_false_iff_eq.mpr hs, if_neg Bool.false_ne_true]
    cases d with
    | postgreSql => exact .inl rfl
    | _ => exact .inr ⟨rfl, notMem_wildcards hs⟩
  case neg =>
    rw [bne_iff_ne.mpr hs]
    exact .inl rfl

/-- A pattern that the server computes is the one that is made from its text. -/
lemma computedPattern_text (atStart : Bool) {b : Scalar} {r : Phrase} {s : String}
    (hb : b.phrases d = [r]) (hr : r.text? d given = some s) :
    ∃ r', (Scalar.paren (if atStart then .concat (escapedByServer d b) (.text "%")
        else .concat (.text "%") (escapedByServer d b))).phrases d = [r'] ∧
      r'.text? d given = some (.ofList (affixPattern d atStart s.toList)) := by
  obtain ⟨body, hbody, htext⟩ := escapedByServer_text hb hr
  have hpercent : Phrase.text? d given (.literal "%") = some (.ofList ['%']) := rfl
  cases atStart with
  | true =>
    refine ⟨.group [body, .symbol (concatSign d), .literal "%"], ?_, ?_⟩
    · simp [Scalar.phrases, hbody]
    · rw [text?_joined htext hpercent, ← String.ofList_append]
      rfl
  | false =>
    refine ⟨.group [.literal "%", .symbol (concatSign d), body], ?_, ?_⟩
    · simp [Scalar.phrases, hbody]
    · rw [text?_joined hpercent htext, ← String.ofList_append]
      rfl

/-- A test that ignores case is compiled, and it accepts the texts that begin or end with the text
that its pattern is made from, whether this is a constant or the server has it. -/
lemma test?_of_compile (atStart : Bool) {s t : String} (hx : operandText? d given q x = some t)
    (hp : patternText? d given q p = some s) :
    ∃ st b, (Expr.call (ignoreCaseTest atStart) [x, p]).compile d q = .ok st ∧
      st.test? d k given = some b ∧ (b = true ↔ k.HasAffix atStart t.toList s.toList) := by
  obtain ⟨a, r, ha, har, hr⟩ := phrase_of_operandText? hx
  obtain ⟨hconst, hfold⟩ | ⟨hconst, hp⟩ := patternText?_cases hp
  case inl =>
    obtain ⟨st, hst, hread⟩ := compile_ignoreCase (like_constant ha hconst hfold)
    have hpattern : Phrase.text? d given
        (.value (.text (.ofList (affixPattern d atStart s.toList)))) = some _ := rfl
    obtain ⟨b, hb, hiff⟩ :=
      matchTest?_affix (k := k) atStart hr hpattern (escapeOf_needed s.toList)
    refine ⟨st, b, hst, ?_, hiff⟩
    rw [Statement.test?, hread, Option.bind_some, test?_like har rfl]
    exact hb
  case inr =>
    obtain ⟨y, w, hy, hyw, hw⟩ := phrase_of_operandText? hp
    obtain ⟨st, hst, hread⟩ := compile_ignoreCase (like_computed ha hconst hy)
    obtain ⟨w', hw', htext⟩ := computedPattern_text atStart hyw hw
    -- A computed pattern always names the backslash, whether or not it comes to need it.
    have hescape : escapeOf d (some '\\') = some '\\' := rfl
    obtain ⟨b, hb, hiff⟩ := matchTest?_affix (k := k) atStart hr htext (.inl hescape)
    refine ⟨st, b, hst, ?_, hiff⟩
    rw [Statement.test?, hread, Option.bind_some, test?_like har hw']
    exact hb

/-- The truth value of a test that ignores case depends only on the two texts. -/
lemma test?_eq_of_compile {p' : Expr} (atStart : Bool) {s t : String} {st st' : Statement}
    (hx : operandText? d given q x = some t) (hp : patternText? d given q p = some s)
    (hp' : patternText? d given q p' = some s)
    (h : (Expr.call (ignoreCaseTest atStart) [x, p]).compile d q = .ok st)
    (h' : (Expr.call (ignoreCaseTest atStart) [x, p']).compile d q = .ok st') :
    st.test? d k given = st'.test? d k given := by
  obtain ⟨st₁, b, hst, hb, hiff⟩ := test?_of_compile (k := k) atStart hx hp
  obtain ⟨st₂, b', hst', hb', hiff'⟩ := test?_of_compile (k := k) atStart hx hp'
  cases h.symm.trans hst
  cases h'.symm.trans hst'
  rw [hb, hb', Bool.eq_iff_iff.mpr (hiff.trans hiff'.symm)]

/-- The tests that a text begins or ends with another, ignoring case, match exactly the other text:
each is compiled if its operands have texts, and is true just of the texts that begin or end with
the text of the pattern, character by character.  The replacements in which a server computes a
pattern yield the text with escapes that a constant pattern has.  So whether its pattern is a
constant or computed makes no difference to a test. -/
theorem ignoreCase_matches (d : Dialect) (k : Collation) (given : Phrase → Option String)
    (q : Query) :
    (∀ x p t s, operandText? d given q x = some t → patternText? d given q p = some s →
      (∃ st b, (Expr.call .startsWithIgnoreCase [x, p]).compile d q = .ok st ∧
        st.test? d k given = some b ∧ (b = true ↔ k.HasPrefix t.toList s.toList)) ∧
      ∃ st b, (Expr.call .endsWithIgnoreCase [x, p]).compile d q = .ok st ∧
        st.test? d k given = some b ∧ (b = true ↔ k.HasSuffix t.toList s.toList)) ∧
    (∀ (x : Scalar) s, x.text? d given = some s →
      (escapedByServer d x).text? d given = some (.ofList (escaped d s.toList))) ∧
    ∀ func x p p' t s st st', func = .startsWithIgnoreCase ∨ func = .endsWithIgnoreCase →
      operandText? d given q x = some t → patternText? d given q p = some s →
      patternText? d given q p' = some s → (Expr.call func [x, p]).compile d q = .ok st →
      (Expr.call func [x, p']).compile d q = .ok st' →
      st.test? d k given = st'.test? d k given := by
  refine ⟨fun x p t s hx hp => ⟨?starts, ?ends⟩, ?escapes, ?agree⟩
  case starts => exact test?_of_compile true hx hp
  case ends => exact test?_of_compile false hx hp
  case escapes =>
    intro x s hx
    unfold Scalar.text? at hx
    split at hx
    case h_1 r hr =>
      obtain ⟨r', hr', htext⟩ := escapedByServer_text hr hx
      rw [Scalar.text?, hr']
      exact htext
    case h_2 => cases hx
  case agree =>
    rintro func x p p' t s st st' (rfl | rfl) hx hp hp' h h'
    · exact test?_eq_of_compile true hx hp hp' h h'
    · exact test?_eq_of_compile false hx hp hp' h h'

/-- A table of offers and the words that their titles should begin with. -/
def offerTable : Table :=
  .of "Offer"
    [⟨"title", "Title", .text, false, false⟩, ⟨"lead", "Lead", .text, false, false⟩] (by decide)

/-- What a server has for the columns of an offer. -/
def offerTexts : Phrase → Option String
  | .column none "title" => some "50%_OFF"
  | .column none "lead" => some "50%_o"
  | _ => none

/-- Letters are the same in either case, and there are no classes. -/
def caseless : Collation where
  same c x := c.toLower == x.toLower
  member _ _ := false

/-- A title begins with a text that has wildcards in it, be it a constant or another column. -/
theorem ignoreCase_matches_offer :
    ∃ st st', (Expr.call .startsWithIgnoreCase
        [.column ⟨⟨0⟩, 0⟩, .value (.text "50%_o")]).compile .sqlServer
          (Query.all offerTable ⟨0⟩) = .ok st ∧
      (Expr.call .startsWithIgnoreCase [.column ⟨⟨0⟩, 0⟩, .column ⟨⟨0⟩, 1⟩]).compile .sqlServer
        (Query.all offerTable ⟨0⟩) = .ok st' ∧
      st.test? .sqlServer caseless offerTexts = some true ∧
      st'.test? .sqlServer caseless offerTexts = some true := by
  obtain ⟨hmatches, -, hagree⟩ :=
    ignoreCase_matches .sqlServer caseless offerTexts (Query.all offerTable ⟨0⟩)
  have htitle : operandText? .sqlServer offerTexts (Query.all offerTable ⟨0⟩)
      (.column ⟨⟨0⟩, 0⟩) = some "50%_OFF" := rfl
  have hconstant : patternText? .sqlServer offerTexts (Query.all offerTable ⟨0⟩)
      (.value (.text "50%_o")) = some "50%_o" := rfl
  have hcolumn : patternText? .sqlServer offerTexts (Query.all offerTable ⟨0⟩)
      (.column ⟨⟨0⟩, 1⟩) = some "50%_o" := rfl
  have hprefix : caseless.HasPrefix "50%_OFF".toList "50%_o".toList := by
    have hsame : caseless.Same "50%_o".toList "50%_O".toList :=
      .cons rfl (.cons rfl (.cons rfl (.cons rfl (.cons rfl .nil))))
    exact ⟨"50%_O".toList, ⟨"FF".toList, rfl⟩, hsame⟩
  obtain ⟨st, b, hst, hb, hiff⟩ := (hmatches _ _ _ _ htitle hconstant).1
  obtain ⟨st', b', hst', -, -⟩ := (hmatches _ _ _ _ htitle hcolumn).1
  have hequal := hagree _ _ _ _ _ _ _ _ (.inl rfl) htitle hconstant hcolumn hst hst'
  rw [hiff.mpr hprefix] at hb
  exact ⟨st, st', hst, hst', hb, hequal ▸ hb⟩

end Emission

end TableQuery.Sql
