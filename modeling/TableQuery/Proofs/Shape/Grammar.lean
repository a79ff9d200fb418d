import TableQuery.Proofs.Tree.Phrases

/-!
# The grammar of texts

What the phrases of a text may look like.  Values and conditions are separate sorts.  Between two
parentheses there is at most one operator, one connective or one test between single phrases, apart
from a sum to the left of a further summand, so that no precedence is needed to read them; and
conditions occur nowhere but after `WHERE`, `AND`, `CASE WHEN` and `not`, to either side of `and`
and `or`, and in parentheses that stand in such a place.

The phrases of every tree that is written as it should be follow this grammar (`Select.follows`), by
induction on the tree.
-/

namespace TableQuery.Sql

mutual

/-- A value that is a single phrase and holds no constant written out, apart from null. -/
inductive IsPrimary : Phrase → Prop
  | column (qualifier : Option String) (name : String) : IsPrimary (.column qualifier name)
  | value (v : Value) : IsPrimary (.value v)
  | null : IsPrimary (.word "NULL")
  | clock : IsPrimary (.word "localtimestamp")
  | call (r : Routine) (d : Dialect) {ps : List Phrase} : IsScalars ps →
    IsPrimary (.call (r.name d) ps)
  | cast {ps : List Phrase} (ty : TypeName) : IsScalar ps →
    IsPrimary (.call "CAST" (ps ++ .word "AS" :: ty.phrases))
  | extract (field : String) {ps : List Phrase} : IsScalar ps →
    IsPrimary (.call "EXTRACT" (.word field :: .word "FROM" :: ps))
  | datePart (field : String) {ps : List Phrase} : IsScalar ps →
    IsPrimary (.call "DATEPART" (.word field :: .mark ',' :: ps))
  | dateAdd (field : String) {ps : List Phrase} : IsScalars ps →
    IsPrimary (.call "DATEADD" (.word field :: .mark ',' :: ps))
  | interval (field : String) {ps : List Phrase} : IsScalar ps →
    IsPrimary (.call "make_interval" (.word field :: .symbol "=>" :: ps))
  | group {ps : List Phrase} : IsScalar ps → IsPrimary (.group ps)

/-- A value that is a single phrase. -/
inductive IsOperand : Phrase → Prop
  | primary {p : Phrase} : IsPrimary p → IsOperand p
  | number (n : Nat) : IsOperand (.word (toString n))
  | truth (d : Dialect) (b : Bool) : IsOperand (.word (truthText d b))
  | literal (s : String) : IsOperand (.literal s)
  | dateFirst : IsOperand (.word "@@DATEFIRST")

/-- A sum or a difference of single phrases, or more of them. -/
inductive IsSum : List Phrase → Prop
  | pair (op : BinaryOp) {p q : Phrase} : op.isAdditive = true → IsOperand p → IsOperand q →
    IsSum [p, .symbol op.symbol, q]
  | more (op : BinaryOp) {ps : List Phrase} {q : Phrase} : op.isAdditive = true → IsSum ps →
    IsOperand q → IsSum (ps ++ [.symbol op.symbol, q])

/-- A value. -/
inductive IsScalar : List Phrase → Prop
  | operand {p : Phrase} : IsOperand p → IsScalar [p]
  | negate {p : Phrase} : IsOperand p → IsScalar [.symbol "-", p]
  | complement {p : Phrase} : IsOperand p → IsScalar [.symbol "~", p]
  | operator (op : BinaryOp) {p q : Phrase} : op.isNumeric = true → IsOperand p → IsOperand q →
    IsScalar [p, .symbol op.symbol, q]
  | sum {ps : List Phrase} : IsSum ps → IsScalar ps
  | concat (d : Dialect) {p q : Phrase} : IsOperand p → IsOperand q →
    IsScalar [p, .symbol (concatSign d), q]
  | atTimeZone {p : Phrase} (zone : String) : IsOperand p →
    IsScalar [p, .word "at", .word "time", .word "zone", .literal zone]
  | case {cs ys ns : List Phrase} : IsClause cs → IsScalar ys → IsScalar ns →
    IsScalar (.word "CASE" :: .word "WHEN" :: (cs ++ .word "THEN" :: (ys ++ .word "ELSE" ::
      (ns ++ [.word "END"]))))

/-- Values with commas between them. -/
inductive IsScalars : List Phrase → Prop
  | none : IsScalars []
  | one {ps : List Phrase} : IsScalar ps → IsScalars ps
  | more {ps qs : List Phrase} : IsScalar ps → IsScalars qs → IsScalars (ps ++ .mark ',' :: qs)

/-- A condition that is a single phrase. -/
inductive IsTest : Phrase → Prop
  | group {ps : List Phrase} : IsCondition ps → IsTest (.group ps)
  | exists {ps : List Phrase} : IsStatement ps → IsTest (.call "EXISTS" ps)

/-- A condition without a connective outside parentheses. -/
inductive IsClause : List Phrase → Prop
  | test {p : Phrase} : IsTest p → IsClause [p]
  | compare (op : BinaryOp) {p q : Phrase} : op.isComparison = true → IsOperand p →
    IsOperand q → IsClause [p, .symbol op.symbol, q]
  | isNull {p : Phrase} : IsOperand p → IsClause [p, .word "is", .word "null"]
  | isNotNull {p : Phrase} : IsOperand p → IsClause [p, .word "is", .word "not", .word "null"]
  | inList {p : Phrase} {ps : List Phrase} : IsOperand p → IsScalars ps →
    IsClause [p, .word "IN", .group ps]
  | inSelect {p : Phrase} {ps : List Phrase} : IsOperand p → IsStatement ps →
    IsClause [p, .word "IN", .group ps]
  | like (d : Dialect) {p q : Phrase} : IsOperand p → IsOperand q →
    IsClause [p, .word d.likeKeyword, q]
  | likeEscaped (d : Dialect) {p q : Phrase} : IsOperand p → IsOperand q →
    IsClause [p, .word d.likeKeyword, q, .word "ESCAPE", .literal "\\"]

/-- A condition. -/
inductive IsCondition : List Phrase → Prop
  | clause {ps : List Phrase} : IsClause ps → IsCondition ps
  | not {p : Phrase} : IsTest p → IsCondition [.word "not", p]
  | and {p q : Phrase} : IsTest p → IsTest q → IsCondition [p, .word "and", q]
  | or {ps qs : List Phrase} : IsClause ps → IsClause qs → IsCondition (ps ++ .word "or" :: qs)

/-- Further conditions that a row must satisfy. -/
inductive IsFurther : List Phrase → Prop
  | none : IsFurther []
  | and {p : Phrase} {ps : List Phrase} : IsTest p → IsFurther ps →
    IsFurther (.word "AND" :: p :: ps)

/-- The conditions that a row must satisfy. -/
inductive IsFilter : List Phrase → Prop
  | none : IsFilter []
  | where {p : Phrase} {ps : List Phrase} : IsTest p → IsFurther ps →
    IsFilter (.word "WHERE" :: p :: ps)

/-- What a statement reads. -/
inductive IsSource : List Phrase → Prop
  | table (name : String) : IsSource [.column none name]
  | derived {ps : List Phrase} (label : String) : IsStatement ps →
    IsSource [.group ps, .word "AS", .column none label]

/-- A statement. -/
inductive IsStatement : List Phrase → Prop
  | select (distinct : Bool) (top : Option Nat) (output : Output) (order : List OrderTerm)
    (limit : Limit) {ss fs : List Phrase} : IsSource ss → IsFilter fs →
    IsStatement (headPhrases distinct top output ++ .word "FROM" ::
      (ss ++ (fs ++ (orderPhrases order ++ limit.phrases))))

end

section Trees

variable {ok : List From → ColumnName → Prop} {d : Dialect}

/-- The phrases of a value: they are a value, a single phrase if they should be, and a sum if they
should be. -/
structure Scalar.Follows (d : Dialect) (x : Scalar) : Prop where
  scalar : IsScalar (x.phrases d)
  single : x.isSingle = true → ∃ p, x.phrases d = [p] ∧ IsOperand p
  primary : x.isPrimary = true → ∃ p, x.phrases d = [p] ∧ IsPrimary p
  sum : x.isSum = true → IsSum (x.phrases d)

/-- The phrases of a condition: they are a condition, a single phrase if they should be, and without
connectives if they should be. -/
structure Cond.Follows (d : Dialect) (c : Cond) : Prop where
  condition : IsCondition (c.phrases d)
  clause : c.isClause = true → IsClause (c.phrases d)
  single : c.isSingle = true → ∃ p, c.phrases d = [p] ∧ IsTest p

/-- A value of a primary phrase. -/
lemma Scalar.Follows.ofPrimary {x : Scalar} {p : Phrase} (hx : x.phrases d = [p])
    (hp : IsPrimary p) (hs : x.isSum = false) : x.Follows d where
  scalar := by
    rw [hx]
    exact .operand (.primary hp)
  single _ := ⟨p, hx, .primary hp⟩
  primary _ := ⟨p, hx, hp⟩
  sum h := by
    rw [hs] at h
    cases h

/-- A value of a single phrase that is not primary. -/
lemma Scalar.Follows.ofConstant {x : Scalar} {p : Phrase} (hx : x.phrases d = [p])
    (hp : IsOperand p) (hs : x.isSum = false) (hn : x.isPrimary = false) : x.Follows d where
  scalar := by
    rw [hx]
    exact .operand hp
  single _ := ⟨p, hx, hp⟩
  primary h := by
    rw [hn] at h
    cases h
  sum h := by
    rw [hs] at h
    cases h

/-- A value of several phrases. -/
lemma Scalar.Follows.ofScalar {x : Scalar} (hx : IsScalar (x.phrases d))
    (hs : x.isSum = false) (hn : x.isSingle = false) (hp : x.isPrimary = false) :
    x.Follows d where
  scalar := hx
  single h := by
    rw [hn] at h
    cases h
  primary h := by
    rw [hp] at h
    cases h
  sum h := by
    rw [hs] at h
    cases h

/-- An operator between two values. -/
lemma Scalar.Follows.ofOperator {op : BinaryOp} {l r : Scalar} (hop : op.isNumeric = true)
    (hl : l.isSingle = true ∨ op.isAdditive = true ∧ l.isSum = true) (hleft : l.Follows d)
    (hr : ∃ q, r.phrases d = [q] ∧ IsOperand q) : (Scalar.operator op l r).Follows d := by
  obtain ⟨q, hq, hoq⟩ := hr
  have hphrases : (Scalar.operator op l r).phrases d =
      l.phrases d ++ [Phrase.symbol op.symbol, q] := by
    rw [Scalar.phrases, hq]
  cases hl with
  | inl hsingle =>
    obtain ⟨p, hp, hop'⟩ := hleft.single hsingle
    constructor
    case scalar =>
      rw [hphrases, hp]
      exact .operator op hop hop' hoq
    case single =>
      intro hone
      cases hone
    case primary =>
      intro hprimary
      cases hprimary
    case sum =>
      intro hadditive
      rw [hphrases, hp]
      exact .pair op hadditive hop' hoq
  | inr hsum =>
    have hall : IsSum ((Scalar.operator op l r).phrases d) := by
      rw [hphrases]
      exact .more op hsum.1 (hleft.sum hsum.2) hoq
    exact ⟨.sum hall, fun hone => absurd hone Bool.false_ne_true,
      fun hprimary => absurd hprimary Bool.false_ne_true, fun _ => hall⟩

/-- A condition of a single phrase. -/
lemma Cond.Follows.ofTest {c : Cond} {p : Phrase} (hc : c.phrases d = [p]) (hp : IsTest p) :
    c.Follows d where
  condition := by
    rw [hc]
    exact .clause (.test hp)
  clause _ := by
    rw [hc]
    exact .test hp
  single _ := ⟨p, hc, hp⟩

/-- A condition of several phrases without connectives. -/
lemma Cond.Follows.ofClause {c : Cond} (hc : IsClause (c.phrases d)) (hs : c.isSingle = false) :
    c.Follows d where
  condition := .clause hc
  clause _ := hc
  single h := by
    rw [hs] at h
    cases h

/-- A condition with connectives. -/
lemma Cond.Follows.ofCondition {c : Cond} (hc : IsCondition (c.phrases d))
    (hl : c.isClause = false) (hs : c.isSingle = false) : c.Follows d where
  condition := hc
  clause h := by
    rw [hl] at h
    cases h
  single h := by
    rw [hs] at h
    cases h

mutual

/-- The phrases of a value follow the grammar. -/
theorem Scalar.follows {chain : List From} :
    (x : Scalar) → x.Written ok chain → x.Follows d
  | .null, _ => .ofPrimary rfl .null rfl
  | .number n, _ => .ofConstant rfl (.number n) rfl rfl
  | .truth b, _ => .ofConstant rfl (.truth d b) rfl rfl
  | .text s, _ => .ofConstant rfl (.literal s) rfl rfl
  | .param v, _ => .ofPrimary rfl (.value v) rfl
  | .column c, _ => .ofPrimary rfl (.column c.qualifier c.name) rfl
  | .call r args, h => .ofPrimary rfl (.call r d (scalarList_follows args h)) rfl
  | .cast x ty, h => .ofPrimary rfl (.cast ty (Scalar.follows x h).scalar) rfl
  | .extract f x, h => .ofPrimary rfl (.extract f.name (Scalar.follows x h).scalar) rfl
  | .extractWeekday x, h => .ofPrimary rfl (.extract "DOW" (Scalar.follows x h).scalar) rfl
  | .datePart f x, h => .ofPrimary rfl (.datePart f.name (Scalar.follows x h).scalar) rfl
  | .datePartWeekday x, h => .ofPrimary rfl (.datePart "WEEKDAY" (Scalar.follows x h).scalar) rfl
  | .dateFirst, _ => .ofConstant rfl .dateFirst rfl rfl
  | .dateAdd f n x, h =>
    .ofPrimary rfl (.dateAdd f.name
      (.more (Scalar.follows n h.1).scalar (.one (Scalar.follows x h.2).scalar))) rfl
  | .interval f n, h => .ofPrimary rfl (.interval f.intervalField (Scalar.follows n h).scalar) rfl
  | .localTimestamp, _ => .ofPrimary rfl .clock rfl
  | .atTimeZone x zone, h => by
    obtain ⟨p, hp, hop⟩ := (Scalar.follows x h.1.2).single h.1.1
    refine .ofScalar ?_ rfl rfl rfl
    rw [Scalar.phrases, hp]
    exact .atTimeZone zone hop
  | .operator op l r, h =>
    .ofOperator h.1 h.2.1.1 (Scalar.follows l h.2.1.2) ((Scalar.follows r h.2.2.2).single h.2.2.1)
  | .concat l r, h => by
    obtain ⟨p, hp, hop⟩ := (Scalar.follows l h.1.2).single h.1.1
    obtain ⟨q, hq, hoq⟩ := (Scalar.follows r h.2.2).single h.2.1
    refine .ofScalar ?_ rfl rfl rfl
    rw [Scalar.phrases, hp, hq]
    exact .concat d hop hoq
  | .negate x, h => by
    obtain ⟨p, hp, hop⟩ := (Scalar.follows x h.2).single h.1
    refine .ofScalar ?_ rfl rfl rfl
    rw [Scalar.phrases, hp]
    exact .negate hop
  | .complement x, h => by
    obtain ⟨p, hp, hop⟩ := (Scalar.follows x h.2).single h.1
    refine .ofScalar ?_ rfl rfl rfl
    rw [Scalar.phrases, hp]
    exact .complement hop
  | .case test yes no, h =>
    .ofScalar (.case ((Cond.follows test h.1.2).clause h.1.1) (Scalar.follows yes h.2.1).scalar
      (Scalar.follows no h.2.2).scalar) rfl rfl rfl
  | .paren x, h => .ofPrimary rfl (.group (Scalar.follows x h).scalar) rfl

/-- The phrases of several values follow the grammar. -/
theorem scalarList_follows {chain : List From} :
    (xs : List Scalar) → scalarsWritten ok chain xs → IsScalars (scalarListPhrases d xs)
  | [], _ => .none
  | [x], h => .one (Scalar.follows x h.1).scalar
  | x :: y :: ys, h => .more (Scalar.follows x h.1).scalar (scalarList_follows (y :: ys) h.2)

/-- The phrases of a condition follow the grammar. -/
theorem Cond.follows {chain : List From} :
    (c : Cond) → c.Written ok chain → c.Follows d
  | .compare op l r, h => by
    -- Both sides are single phrases, so that no operator within them can be torn apart.
    obtain ⟨p, hp, hop⟩ := (Scalar.follows l h.2.1.2).single h.2.1.1
    obtain ⟨q, hq, hoq⟩ := (Scalar.follows r h.2.2.2).single h.2.2.1
    refine .ofClause ?_ rfl
    rw [Cond.phrases, hp, hq]
    exact .compare op h.1 hop hoq
  | .and l r, h => by
    obtain ⟨p, hp, hop⟩ := (Cond.follows l h.1.2).single h.1.1
    obtain ⟨q, hq, hoq⟩ := (Cond.follows r h.2.2).single h.2.1
    refine .ofCondition ?_ rfl rfl
    rw [Cond.phrases, hp, hq]
    exact .and hop hoq
  | .or l r, h =>
    .ofCondition (.or ((Cond.follows l h.1.2).clause h.1.1) ((Cond.follows r h.2.2).clause h.2.1))
      rfl rfl
  | .not c, h => by
    obtain ⟨p, hp, hop⟩ := (Cond.follows c h.2).single h.1
    refine .ofCondition ?_ rfl rfl
    rw [Cond.phrases, hp]
    exact .not hop
  | .isNull x, h => by
    obtain ⟨p, hp, hop⟩ := (Scalar.follows x h.2).single h.1
    refine .ofClause ?_ rfl
    rw [Cond.phrases, hp]
    exact .isNull hop
  | .isNotNull x, h => by
    obtain ⟨p, hp, hop⟩ := (Scalar.follows x h.2).single h.1
    refine .ofClause ?_ rfl
    rw [Cond.phrases, hp]
    exact .isNotNull hop
  | .inList x members, h => by
    obtain ⟨p, hp, hop⟩ := (Scalar.follows x h.1.2).single h.1.1
    refine .ofClause ?_ rfl
    rw [Cond.phrases, hp]
    exact .inList hop (scalarList_follows members h.2)
  | .inSelect x s, h => by
    obtain ⟨p, hp, hop⟩ := (Scalar.follows x h.1.2).single h.1.1
    refine .ofClause ?_ rfl
    rw [Cond.phrases, hp]
    exact .inSelect hop (Select.follows s h.2)
  | .like x pattern escaped, h => by
    obtain ⟨p, hp, hop⟩ := (Scalar.follows x h.1.2).single h.1.1
    obtain ⟨q, hq, hoq⟩ := (Scalar.follows pattern h.2.2).single h.2.1
    refine .ofClause ?_ rfl
    rw [Cond.phrases, hp, hq]
    cases escaped with
    | false => exact .like d hop hoq
    | true => exact .likeEscaped d hop hoq
  | .exists s, h => .ofTest rfl (.exists (Select.follows s h))
  | .paren c, h => .ofTest rfl (.group (Cond.follows c h).condition)

/-- The phrases of further conditions follow the grammar. -/
theorem furtherPhrases_follow {chain : List From} :
    (cs : List Cond) → filtersWritten ok chain cs → IsFurther (furtherPhrases d cs)
  | [], _ => .none
  | c :: cs, h => by
    obtain ⟨p, hp, hop⟩ := (Cond.follows c h.1.2).single h.1.1
    rw [furtherPhrases, hp]
    exact .and hop (furtherPhrases_follow cs h.2)

/-- The phrases of the conditions of a statement follow the grammar. -/
theorem filterPhrases_follow {chain : List From} :
    (cs : List Cond) → filtersWritten ok chain cs → IsFilter (filterPhrases d cs)
  | [], _ => .none
  | c :: cs, h => by
    obtain ⟨p, hp, hop⟩ := (Cond.follows c h.1.2).single h.1.1
    rw [filterPhrases, hp]
    exact .where hop (furtherPhrases_follow cs h.2)

/-- The phrases of what a statement reads follow the grammar. -/
theorem Source.follows {chain : List From} :
    (s : Source) → s.Written ok chain → IsSource (s.phrases d)
  | .table name _, _ => .table name
  | .derived s label, h => .derived label (Select.follows s h)

/-- The phrases of a statement follow the grammar. -/
theorem Select.follows {chain : List From} :
    (s : Select) → s.Written ok chain → IsStatement (s.phrases d)
  | ⟨distinct, top, output, source, filters, order, limit⟩, h => by
    have hstatement := IsStatement.select distinct top output order limit
      (Source.follows source h.2.1) (filterPhrases_follow filters h.2.2.1)
    rw [Select.phrases_eq]
    exact hstatement

end

end Trees

end TableQuery.Sql
