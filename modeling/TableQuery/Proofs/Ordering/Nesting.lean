import TableQuery.Proofs.Rows.Clauses

/-!
# Nested statements

The statements inside a text are what stands in parentheses and starts with `SELECT`, at any depth
(`nestedStatements`).  Those of a tree are read off the tree (`Select.nested`), and their texts are
just the statements inside the text of the tree (`Select.encloses`): nothing else that a tree has in
parentheses starts with that word.
-/

namespace TableQuery.Sql

/-- What stands in a pair of parentheses, if it is a statement. -/
def statementHere (inside : List Phrase) : List (List Phrase) :=
  if leadingWord? inside = some "SELECT" then [inside] else []

mutual

/-- The statements in the parentheses of a phrase. -/
def Phrase.statements : Phrase → List (List Phrase)
  | .call _ inside | .group inside => statementHere inside ++ nestedStatements inside
  | _ => []

/-- The statements in the parentheses of several phrases. -/
def nestedStatements : List Phrase → List (List Phrase)
  | [] => []
  | p :: ps => p.statements ++ nestedStatements ps

end

mutual

/-- The statements inside a value. -/
def Scalar.nested : Scalar → List Select
  | .null | .number _ | .truth _ | .text _ | .param _ | .column _ | .dateFirst
  | .localTimestamp => []
  | .call _ args => scalarsNested args
  | .cast x _ | .extract _ x | .extractWeekday x | .datePart _ x | .datePartWeekday x
  | .interval _ x | .atTimeZone x _ | .negate x | .complement x | .paren x => x.nested
  | .dateAdd _ n x => n.nested ++ x.nested
  | .operator _ l r | .concat l r => l.nested ++ r.nested
  | .case test yes no => test.nested ++ (yes.nested ++ no.nested)

/-- The statements inside several values. -/
def scalarsNested : List Scalar → List Select
  | [] => []
  | x :: xs => x.nested ++ scalarsNested xs

/-- The statements inside a condition. -/
def Cond.nested : Cond → List Select
  | .compare _ l r | .like l r _ => l.nested ++ r.nested
  | .and l r | .or l r => l.nested ++ r.nested
  | .not c | .paren c => c.nested
  | .isNull x | .isNotNull x => x.nested
  | .inList x members => x.nested ++ scalarsNested members
  | .inSelect x s => x.nested ++ s :: s.nested
  | .exists s => s :: s.nested

/-- The statements inside several conditions. -/
def condsNested : List Cond → List Select
  | [] => []
  | c :: cs => c.nested ++ condsNested cs

/-- The statements inside what a statement reads. -/
def Source.nested : Source → List Select
  | .table .. => []
  | .derived s _ => s :: s.nested

/-- The statements inside a statement. -/
def Select.nested : Select → List Select
  | ⟨_, _, _, source, filters, _, _⟩ => source.nested ++ condsNested filters

end

/-- The statements in a statement are those in its source and in its filter. -/
lemma Select.nested_eq (s : Select) : s.nested = s.source.nested ++ condsNested s.filters := by
  cases s
  rfl

section Flat

variable {ps qs : List Phrase} {d : Dialect}

/-- The statements in phrases of two lists. -/
lemma nestedStatements_append :
    nestedStatements (ps ++ qs) = nestedStatements ps ++ nestedStatements qs := by
  induction ps with
  | nil => rfl
  | cons p ps ih => rw [List.cons_append, nestedStatements, nestedStatements, ih, List.append_assoc]

/-- Phrases without statements in their parentheses. -/
def IsFlat (ps : List Phrase) : Prop := ∀ p ∈ ps, p.statements = []

/-- Flat phrases have no statements in them. -/
lemma IsFlat.nestedStatements (h : IsFlat ps) : nestedStatements ps = [] := by
  induction ps with
  | nil => rfl
  | cons p ps ih =>
    obtain ⟨hp, hps⟩ := List.forall_mem_cons.mp h
    rw [Sql.nestedStatements, hp, ih hps, List.append_nil]

/-- What a statement returns is flat. -/
lemma isFlat_output (o : Output) : IsFlat o.phrases := by
  cases o with
  | columns names =>
    refine forall_mem_commaed rfl fun ps hps => ?_
    obtain ⟨c, -, rfl⟩ := List.mem_map.mp hps
    exact List.forall_mem_singleton.mpr rfl
  | count big => cases big <;> exact List.forall_mem_singleton.mpr rfl
  | _ => exact List.forall_mem_singleton.mpr rfl

/-- What a statement sorts by is flat. -/
lemma isFlat_order (order : List OrderTerm) : IsFlat (orderPhrases order) := by
  unfold orderPhrases
  split
  · exact nofun
  · refine List.forall_mem_cons.mpr ⟨rfl, List.forall_mem_cons.mpr ⟨rfl, forall_mem_commaed rfl ?_⟩⟩
    intro ps hps
    obtain ⟨t, -, rfl⟩ := List.mem_map.mp hps
    exact List.forall_mem_cons.mpr ⟨rfl, List.forall_mem_singleton.mpr rfl⟩

/-- The window of a statement is flat. -/
lemma isFlat_limit (l : Limit) : IsFlat l.phrases := by
  cases l with
  | none => exact nofun
  | limitOffset count skipped =>
    cases count <;> cases skipped <;>
      simp [IsFlat, Limit.phrases, integerPhrases, Phrase.statements]
  | offsetFetch skipped fetched =>
    cases fetched <;> simp [IsFlat, Limit.phrases, Phrase.statements]

/-- The name of a type is flat. -/
lemma isFlat_typeName (ty : TypeName) : IsFlat ty.phrases := by
  cases ty with
  | nvarchar => exact List.forall_mem_singleton.mpr rfl
  | doublePrecision => exact List.forall_mem_cons.mpr ⟨rfl, List.forall_mem_singleton.mpr rfl⟩
  | _ => exact List.forall_mem_singleton.mpr rfl

end Flat

section Leading

variable {d : Dialect} {ps : List Phrase}

/-- Whether some phrases start no statement. -/
def NoStatement (ps : List Phrase) : Prop := leadingWord? ps ≠ some "SELECT"

/-- A statement begins with no other word. -/
lemma noStatement_word {w : String} (h : w ≠ "SELECT") : NoStatement (.word w :: ps) :=
  fun heq => h (Option.some.inj heq)

/-- A statement begins with no numeral. -/
lemma noStatement_numeral (n : Nat) : NoStatement (.word (toString n) :: ps) := by
  refine noStatement_word fun heq => ?_
  have hnone : (Phrase.word "SELECT").natural? = none := by decide
  have hsome := natural?_word n
  rw [show n.repr = "SELECT" from heq, hnone] at hsome
  cases hsome

/-- A statement is flat up to its source. -/
lemma isFlat_head (distinct : Bool) (top : Option Nat) (o : Output) :
    IsFlat (headPhrases distinct top o) := by
  have htop : ∀ n : Nat, (Phrase.group [.word (toString n)]).statements = [] := by
    intro n
    have hn : statementHere [.word (toString n)] = [] := if_neg (noStatement_numeral n)
    rw [Phrase.statements, hn]
    rfl
  refine List.forall_mem_cons.mpr ⟨rfl, List.forall_mem_append.mpr ⟨?_, isFlat_output o⟩⟩
  refine List.forall_mem_append.mpr ⟨?_, ?_⟩
  · cases distinct with
    | true => exact List.forall_mem_singleton.mpr rfl
    | false => exact nofun
  · cases top with
    | some n => exact List.forall_mem_cons.mpr ⟨rfl, List.forall_mem_singleton.mpr (htop n)⟩
    | none => exact nofun

-- The recursion is on the operand that a text starts with.
mutual

/-- The phrases of a value start no statement. -/
theorem Scalar.noStatement : (x : Scalar) → (rest : List Phrase) → NoStatement (x.phrases d ++ rest)
  | .null, _ => noStatement_word (by decide)
  | .number n, _ => noStatement_numeral n
  | .truth b, _ => noStatement_word (by cases d <;> cases b <;> decide)
  | .text _, _ | .param _, _ | .column _, _ | .call _ _, _ | .cast _ _, _ | .extract _ _, _
  | .extractWeekday _, _ | .datePart _ _, _ | .datePartWeekday _, _ | .dateAdd _ _ _, _
  | .interval _ _, _ | .negate _, _ | .complement _, _ | .paren _, _ => nofun
  | .dateFirst, _ | .localTimestamp, _ | .case _ _ _, _ => noStatement_word (by decide)
  | .atTimeZone x _, rest => by
    rw [Scalar.phrases, List.append_assoc]
    exact Scalar.noStatement x _
  | .operator _ l _, rest | .concat l _, rest => by
    rw [Scalar.phrases, List.append_assoc]
    exact Scalar.noStatement l _

/-- The phrases of a condition start no statement. -/
theorem Cond.noStatement : (c : Cond) → (rest : List Phrase) → NoStatement (c.phrases d ++ rest)
  | .compare _ l _, rest | .like l _ _, rest => by
    rw [Cond.phrases, List.append_assoc]
    exact Scalar.noStatement l _
  | .and l _, rest | .or l _, rest => by
    rw [Cond.phrases, List.append_assoc]
    exact Cond.noStatement l _
  | .not _, _ => noStatement_word (by decide)
  | .isNull x, rest | .isNotNull x, rest | .inList x _, rest | .inSelect x _, rest => by
    rw [Cond.phrases, List.append_assoc]
    exact Scalar.noStatement x _
  | .exists _, _ | .paren _, _ => nofun

end

/-- Values with commas between them begin no statement. -/
lemma noStatement_scalars (xs : List Scalar) : NoStatement (scalarListPhrases d xs) := by
  cases xs with
  | nil => exact nofun
  | cons x xs =>
    cases xs with
    | nil =>
      have hx := Scalar.noStatement (d := d) x []
      rw [List.append_nil] at hx
      exact hx
    | cons y ys => exact Scalar.noStatement x _

/-- The statements in parentheses are those in the phrases there. -/
lemma nestedStatements_group (h : NoStatement ps) :
    nestedStatements [.group ps] = nestedStatements ps := by
  have hhere : statementHere ps = [] := if_neg h
  simp only [nestedStatements, Phrase.statements, hhere, List.append_nil, List.nil_append]

/-- The statements in a call are those in its arguments. -/
lemma nestedStatements_call {f : String} (h : NoStatement ps) :
    nestedStatements [.call f ps] = nestedStatements ps := by
  have hhere : statementHere ps = [] := if_neg h
  simp only [nestedStatements, Phrase.statements, hhere, List.append_nil, List.nil_append]

end Leading

section Trees

variable {d : Dialect} {ps qs : List Phrase} {us vs : List Select}

/-- Phrases whose statements are those of some trees. -/
def Encloses (d : Dialect) (ps : List Phrase) (us : List Select) : Prop :=
  nestedStatements ps = us.map (Select.phrases d)

/-- Flat phrases enclose nothing. -/
lemma IsFlat.encloses (h : IsFlat ps) : Encloses d ps [] := h.nestedStatements

namespace Encloses

/-- Phrases after others. -/
lemma append (hp : Encloses d ps us) (hq : Encloses d qs vs) :
    Encloses d (ps ++ qs) (us ++ vs) := by
  rw [Encloses, nestedStatements_append, hp, hq, List.map_append]

/-- A phrase without statements before others. -/
lemma cons {p : Phrase} (h : Encloses d ps us) (hp : p.statements = []) :
    Encloses d (p :: ps) us := by
  rw [Encloses, nestedStatements, hp, List.nil_append, h]

/-- Flat phrases after others. -/
lemma behind (h : Encloses d ps us) (hq : IsFlat qs) : Encloses d (ps ++ qs) us := by
  have hall := h.append (hq.encloses (d := d))
  rwa [List.append_nil] at hall

/-- Phrases in parentheses that are no statement. -/
lemma group (h : Encloses d ps us) (hp : NoStatement ps) : Encloses d [.group ps] us :=
  (nestedStatements_group hp).trans h

/-- Phrases as arguments that are no statement. -/
lemma call {f : String} (h : Encloses d ps us) (hp : NoStatement ps) : Encloses d [.call f ps] us :=
  (nestedStatements_call hp).trans h

/-- A statement in parentheses, or as an argument. -/
lemma statement {s : Select} (h : Encloses d (s.phrases d) s.nested) :
    Encloses d [.group (s.phrases d)] (s :: s.nested) ∧
      ∀ f, Encloses d [.call f (s.phrases d)] (s :: s.nested) := by
  have hhere : statementHere (s.phrases d) = [s.phrases d] := by
    rw [Select.phrases_eq]
    exact if_pos rfl
  have hall : statementHere (s.phrases d) ++ nestedStatements (s.phrases d) ++ [] =
      (s :: s.nested).map (Select.phrases d) := by
    rw [hhere, h, List.append_nil]
    rfl
  exact ⟨hall, fun _ => hall⟩

end Encloses

mutual

/-- The statements inside the text of a value are the texts of those inside the value. -/
theorem Scalar.encloses : (x : Scalar) → Encloses d (x.phrases d) x.nested
  | .null | .number _ | .truth _ | .text _ | .param _ | .column _ | .dateFirst
  | .localTimestamp => rfl
  | .call _ args => (scalars_enclose args).call (noStatement_scalars args)
  | .cast x ty => by
    have hx := (Scalar.encloses x).append ((isFlat_typeName ty).encloses.cons (p := .word "AS") rfl)
    rw [List.append_nil] at hx
    exact hx.call (Scalar.noStatement x _)
  | .extract f x => by
    -- What stands first in brackets is no `SELECT`, so the brackets hold no statement.
    have hf : f.name ≠ "SELECT" := by cases f <;> decide
    exact ((Scalar.encloses x).cons rfl |>.cons rfl).call (noStatement_word hf)
  | .extractWeekday x =>
    ((Scalar.encloses x).cons rfl |>.cons rfl).call (noStatement_word (by decide))
  | .datePart f x => by
    have hf : f.name ≠ "SELECT" := by cases f <;> decide
    exact ((Scalar.encloses x).cons rfl |>.cons rfl).call (noStatement_word hf)
  | .datePartWeekday x =>
    ((Scalar.encloses x).cons rfl |>.cons rfl).call (noStatement_word (by decide))
  | .dateAdd f n x => by
    have hf : f.name ≠ "SELECT" := by cases f <;> decide
    have hboth := (Scalar.encloses n).append ((Scalar.encloses x).cons (p := .mark ',') rfl)
    exact (hboth.cons rfl |>.cons rfl).call (noStatement_word hf)
  | .interval f n => by
    have hf : f.intervalField ≠ "SELECT" := by cases f <;> decide
    exact ((Scalar.encloses n).cons rfl |>.cons rfl).call (noStatement_word hf)
  | .atTimeZone x zone => (Scalar.encloses x).behind (by simp [IsFlat, Phrase.statements])
  | .operator _ l r | .concat l r => (Scalar.encloses l).append ((Scalar.encloses r).cons rfl)
  | .negate x | .complement x => (Scalar.encloses x).cons rfl
  | .case test yes no => by
    have hend : IsFlat [.word "END"] := List.forall_mem_singleton.mpr rfl
    have hno := ((Scalar.encloses no).behind hend).cons (p := .word "ELSE") rfl
    have hyes := ((Scalar.encloses yes).append hno).cons (p := .word "THEN") rfl
    exact ((Cond.encloses test).append hyes).cons rfl |>.cons rfl
  | .paren x => by
    have hx := Scalar.noStatement (d := d) x []
    rw [List.append_nil] at hx
    exact (Scalar.encloses x).group hx

/-- Values with commas between them. -/
theorem scalars_enclose :
    (xs : List Scalar) → Encloses d (scalarListPhrases d xs) (scalarsNested xs)
  | [] => rfl
  | [x] => by
    rw [scalarsNested, scalarsNested, List.append_nil]
    exact Scalar.encloses x
  | x :: y :: ys => (Scalar.encloses x).append ((scalars_enclose (y :: ys)).cons rfl)

/-- The statements inside the text of a condition are the texts of those inside the condition. -/
theorem Cond.encloses : (c : Cond) → Encloses d (c.phrases d) c.nested
  | .compare _ l r => (Scalar.encloses l).append ((Scalar.encloses r).cons rfl)
  | .and l r | .or l r => (Cond.encloses l).append ((Cond.encloses r).cons rfl)
  | .not c => (Cond.encloses c).cons rfl
  | .isNull x | .isNotNull x => (Scalar.encloses x).behind (by simp [IsFlat, Phrase.statements])
  | .inList x members =>
    (Scalar.encloses x).append
      (((scalars_enclose members).group (noStatement_scalars members)).cons rfl)
  | .inSelect x s =>
    (Scalar.encloses x).append ((Select.encloses s).statement.1.cons rfl)
  | .like x pattern escaped => by
    refine (Scalar.encloses x).append ((Encloses.behind (Scalar.encloses pattern) ?_).cons rfl)
    cases escaped <;> simp [IsFlat, Phrase.statements]
  | .exists s => (Select.encloses s).statement.2 _
  | .paren c => by
    have hc := Cond.noStatement (d := d) c []
    rw [List.append_nil] at hc
    exact (Cond.encloses c).group hc

/-- The conditions of a filter after the first one. -/
theorem further_enclose : (cs : List Cond) → Encloses d (furtherPhrases d cs) (condsNested cs)
  | [] => rfl
  | c :: cs => ((Cond.encloses c).append (further_enclose cs)).cons rfl

/-- The conditions of a filter. -/
theorem filters_enclose : (cs : List Cond) → Encloses d (filterPhrases d cs) (condsNested cs)
  | [] => rfl
  | c :: cs => ((Cond.encloses c).append (further_enclose cs)).cons rfl

/-- The source of a statement. -/
theorem Source.encloses : (s : Source) → Encloses d (s.phrases d) s.nested
  | .table .. => rfl
  | .derived s _ =>
    (Select.encloses s).statement.1.behind (by simp [IsFlat, Phrase.statements])

/-- The statements inside the text of a statement are the texts of those inside the statement. -/
theorem Select.encloses : (s : Select) → Encloses d (s.phrases d) s.nested
  | ⟨distinct, top, output, source, filters, order, limit⟩ => by
    rw [Select.phrases_eq, Select.nested]
    have hend := ((filters_enclose filters).behind (isFlat_order order)).behind
      (isFlat_limit limit)
    rw [List.append_assoc] at hend
    have htail := ((Source.encloses source).append hend).cons (p := .word "FROM") rfl
    exact (isFlat_head distinct top output).encloses.append htail

end

end Trees

end TableQuery.Sql
