import TableQuery.Proofs.Shape.Grammar

/-!
# Values are no conditions

No phrase is both a value and a condition (`IsOperand.not_isTest`), so that the grammar really keeps
the two sorts apart.  The second phrase of a value or a condition tells them apart, if there is one;
if there is none, the only phrase may be a group, and the question is the same for what stands in
it.
-/

namespace TableQuery.Sql

/-- Whether a phrase is a sign or a word that makes a value of the phrase before it. -/
def Phrase.joinsValues : Phrase → Bool
  | .symbol s => ["+", "-", "*", "/", "%", "&", "|", "^", "||"].contains s
  | .word w => ["at", "WHEN"].contains w
  | _ => false

/-- Whether a phrase is a sign or a word that makes a condition of the phrase before it. -/
def Phrase.joinsConditions : Phrase → Bool
  | .symbol s => ["=", "!=", "<", "<=", ">", ">="].contains s
  | .word w => ["is", "IN", "LIKE", "ILIKE", "and", "or"].contains w
  | _ => false

/-- A phrase makes a value or a condition of the phrase before it, not both. -/
lemma Phrase.joins_disjoint {p : Phrase} (h : p.joinsValues = true) :
    p.joinsConditions = false := by
  cases p with
  | symbol s =>
    simp only [Phrase.joinsValues, List.contains_eq_mem, decide_eq_true_eq] at h
    have hall : ∀ s ∈ ["+", "-", "*", "/", "%", "&", "|", "^", "||"],
        (Phrase.symbol s).joinsConditions = false := by decide
    exact hall s h
  | word w =>
    simp only [Phrase.joinsValues, List.contains_eq_mem, decide_eq_true_eq] at h
    have hall : ∀ w ∈ ["at", "WHEN"], (Phrase.word w).joinsConditions = false := by decide
    exact hall w h
  | _ => rfl

/-- Whether a phrase is a sign. -/
def Phrase.isSymbol : Phrase → Bool
  | .symbol _ => true
  | _ => false

/-- A value is no sign. -/
lemma IsOperand.not_isSymbol {p : Phrase} (h : IsOperand p) : p.isSymbol = false := by
  cases h with
  | primary h => cases h <;> rfl
  | _ => rfl

/-- A condition is no sign, and no sign or word that makes a value of anything. -/
lemma IsTest.not_sign {p : Phrase} (h : IsTest p) :
    p.isSymbol = false ∧ p.joinsValues = false := by
  cases h <;> exact ⟨rfl, rfl⟩

/-- The sign of an operator between numbers makes a value. -/
lemma joinsValues_symbol {op : BinaryOp} (h : op.isNumeric = true) :
    (Phrase.symbol op.symbol).joinsValues = true := by
  cases op with
  | add | subtract | multiply | divide | modulo | bitwiseAnd | bitwiseOr | exclusiveOr => rfl
  | _ => cases h

/-- An operator that adds or subtracts is one between numbers. -/
lemma isNumeric_of_isAdditive {op : BinaryOp} (h : op.isAdditive = true) :
    op.isNumeric = true := by
  cases op with
  | add | subtract => rfl
  | _ => cases h

/-- The sign of a comparison makes a condition. -/
lemma joinsConditions_symbol {op : BinaryOp} (h : op.isComparison = true) :
    (Phrase.symbol op.symbol).joinsConditions = true := by
  cases op with
  | equal | notEqual | lessThan | lessThanOrEqual | greaterThan | greaterThanOrEqual => rfl
  | _ => cases h

/-- The second phrase of a sum makes a value of the first. -/
lemma IsSum.second {ps : List Phrase} (h : IsSum ps) :
    ∃ p q rest, ps = p :: q :: rest ∧ q.joinsValues = true := by
  match h with
  | .pair op hop _ _ =>
    exact ⟨_, _, _, rfl, joinsValues_symbol (isNumeric_of_isAdditive hop)⟩
  | .more op _ hs _ =>
    obtain ⟨p, q, rest, rfl, hq⟩ := hs.second
    exact ⟨p, q, _, rfl, hq⟩

/-- A value is a single phrase, or a sign and a phrase, or its second phrase makes it a value. -/
lemma IsScalar.second {ps : List Phrase} (h : IsScalar ps) :
    (∃ p, ps = [p] ∧ IsOperand p) ∨ (∃ s p, ps = [.symbol s, p]) ∨
      ∃ p q rest, ps = p :: q :: rest ∧ q.joinsValues = true := by
  cases h with
  | operand h => exact .inl ⟨_, rfl, h⟩
  | negate h => exact .inr (.inl ⟨_, _, rfl⟩)
  | complement h => exact .inr (.inl ⟨_, _, rfl⟩)
  | operator op hop _ _ => exact .inr (.inr ⟨_, _, _, rfl, joinsValues_symbol hop⟩)
  | sum h => exact .inr (.inr h.second)
  | concat d _ _ => exact .inr (.inr ⟨_, _, _, rfl, by cases d <;> rfl⟩)
  | atTimeZone zone _ => exact .inr (.inr ⟨_, _, _, rfl, rfl⟩)
  | case _ _ _ => exact .inr (.inr ⟨_, _, _, rfl, rfl⟩)

/-- A condition without connectives is a single phrase, or its second phrase makes it a
condition. -/
lemma IsClause.second {ps : List Phrase} (h : IsClause ps) :
    (∃ p, ps = [p] ∧ IsTest p) ∨
      ∃ p q rest, ps = p :: q :: rest ∧ p.isSymbol = false ∧ q.joinsConditions = true := by
  cases h with
  | test h => exact .inl ⟨_, rfl, h⟩
  | compare op hop h _ =>
    exact .inr ⟨_, _, _, rfl, h.not_isSymbol, joinsConditions_symbol hop⟩
  | isNull h => exact .inr ⟨_, _, _, rfl, h.not_isSymbol, rfl⟩
  | isNotNull h => exact .inr ⟨_, _, _, rfl, h.not_isSymbol, rfl⟩
  | inList h _ => exact .inr ⟨_, _, _, rfl, h.not_isSymbol, rfl⟩
  | inSelect h _ => exact .inr ⟨_, _, _, rfl, h.not_isSymbol, rfl⟩
  | like d h _ => exact .inr ⟨_, _, _, rfl, h.not_isSymbol, by cases d <;> rfl⟩
  | likeEscaped d h _ => exact .inr ⟨_, _, _, rfl, h.not_isSymbol, by cases d <;> rfl⟩

/-- A condition is a single phrase, or `not` and a phrase, or its second phrase makes it a
condition. -/
lemma IsCondition.second {ps : List Phrase} (h : IsCondition ps) :
    (∃ p, ps = [p] ∧ IsTest p) ∨ (∃ p, ps = [.word "not", p] ∧ IsTest p) ∨
      ∃ p q rest, ps = p :: q :: rest ∧ p.isSymbol = false ∧ q.joinsConditions = true := by
  cases h with
  | clause h =>
    cases h.second with
    | inl h => exact .inl h
    | inr h => exact .inr (.inr h)
  | not h => exact .inr (.inl ⟨_, rfl, h⟩)
  | and h _ => exact .inr (.inr ⟨_, _, _, rfl, h.not_sign.1, rfl⟩)
  | or hl _ =>
    obtain ⟨p, rfl, hp⟩ | ⟨p, q, rest, rfl, hp, hq⟩ := hl.second
    · exact .inr (.inr ⟨p, _, _, rfl, hp.not_sign.1, rfl⟩)
    · exact .inr (.inr ⟨p, q, _, rfl, hp, hq⟩)

/-- Whether a phrase asks whether a statement returns rows. -/
def Phrase.isExists : Phrase → Bool
  | .call name _ => name == "EXISTS"
  | _ => false

/-- No function has the name `EXISTS`. -/
lemma isExists_routine (r : Routine) (d : Dialect) (ps : List Phrase) :
    (Phrase.call (r.name d) ps).isExists = false := by
  cases r <;> cases d <;> rfl

/-- A value does not ask whether a statement returns rows. -/
lemma IsPrimary.not_isExists {p : Phrase} (h : IsPrimary p) : p.isExists = false := by
  cases h with
  | call r d _ => exact isExists_routine r d _
  | _ => rfl

/-- A value that is a group holds a value. -/
lemma IsOperand.group_inv {ps : List Phrase} (h : IsOperand (.group ps)) : IsScalar ps := by
  cases h with
  | primary h =>
    cases h with
    | group h => exact h

/-- A condition that is a group holds a condition. -/
lemma IsTest.group_inv {ps : List Phrase} (h : IsTest (.group ps)) : IsCondition ps := by
  cases h with
  | group h => exact h

mutual

/-- A single phrase is not both a value and a condition. -/
theorem IsOperand.not_isTest : (p : Phrase) → IsOperand p → ¬ IsTest p
  | .group ps => fun ho ht => IsScalar.not_isCondition ps ho.group_inv ht.group_inv
  | .call f ps => fun ho ht => by
    cases ht with
    | «exists» _ =>
      cases ho with
      | primary hp => exact nomatch hp.not_isExists
  | .word _ | .mark _ | .symbol _ | .literal _ | .column _ _ | .value _ => nofun

/-- No phrases are both a value and a condition. -/
theorem IsScalar.not_isCondition : (ps : List Phrase) → IsScalar ps → ¬ IsCondition ps
  | [p], hs, hc => by
    have ho : IsOperand p := by
      obtain ⟨q, he, hq⟩ | ⟨_, _, he⟩ | ⟨_, _, _, he, _⟩ := hs.second
      · cases he
        exact hq
      · cases he
      · cases he
    have ht : IsTest p := by
      obtain ⟨q, he, hq⟩ | ⟨_, he, _⟩ | ⟨_, _, _, he, _⟩ := hc.second
      · cases he
        exact hq
      · cases he
      · cases he
    exact IsOperand.not_isTest p ho ht
  | p :: q :: rest, hs, hc => by
    -- What joins the phrases is the second of them, and no word joins both values and tests.
    obtain ⟨_, he, _⟩ | ⟨s, p', he⟩ | ⟨p', q', rest', he, hq'⟩ := hs.second
    · cases he
    · cases he
      obtain ⟨_, he, _⟩ | ⟨_, he, _⟩ | ⟨_, _, _, he, hp, _⟩ := hc.second
      · cases he
      · cases he
      · cases he
        cases hp
    · cases he
      obtain ⟨_, he, _⟩ | ⟨_, he, ht⟩ | ⟨_, _, _, he, _, hq⟩ := hc.second
      · cases he
      · cases he
        rw [ht.not_sign.2] at hq'
        cases hq'
      · cases he
        rw [Phrase.joins_disjoint hq'] at hq
        cases hq
  | [], hs, hc => by
    obtain ⟨_, he, _⟩ | ⟨_, _, he⟩ | ⟨_, _, _, he, _⟩ := hs.second <;> cases he

end

end TableQuery.Sql
