import TableQuery.Proofs.Scoping.Uses
import TableQuery.Proofs.Tree.Phrases

/-!
# Columns in texts

The column names in the phrases of a text, in order, each with the tables of the `FROM` clauses
around it (`mentions`).  A statement has its own table in reach, or none if it reads the rows of
another; the name after `FROM` or `AS` is no column.  An unqualified name is read from the innermost
table, a qualified one from the innermost table with the name of its qualifier (`Mention.target?`).

The column names of a text are those of its tree (`Select.mentions_phrases`).  In the tree each
carries the identity of the row it stands for, and so does each table.
-/

namespace TableQuery.Sql

/-- A column name in a text, and the tables that it may be read from, innermost first. -/
structure Mention where
  tables : List String
  qualifier : Option String
  name : String

/-- The table that a column name is read from, by its position among the tables around it. -/
def Mention.target? (m : Mention) : Option Nat :=
  match m.qualifier with
  | none => if m.tables.isEmpty then none else some 0
  | some table => m.tables.findIdx? (fun t => t == table)

/-- Whether a phrase is a name. -/
def Phrase.isColumn : Phrase → Bool
  | .column .. => true
  | _ => false

/-- Whether a phrase is a word that a name follows which is no column. -/
def Phrase.introduces : Phrase → Bool
  | .word w => w == "FROM" || w == "AS"
  | _ => false

/-- Whether phrases begin a statement. -/
def beginsSelect : List Phrase → Bool
  | .word w :: _ => w == "SELECT"
  | _ => false

/-- The table that phrases begin with. -/
def leadingTable? : List Phrase → Option String
  | .column none name :: _ => some name
  | _ => none

/-- The table that a statement reads, if it reads one. -/
def tableRead? : List Phrase → Option String
  | [] => none
  | .word w :: ps => if w = "FROM" then leadingTable? ps else tableRead? ps
  | _ :: ps => tableRead? ps

/-- The tables in reach inside phrases that stand among some tables. -/
def tablesWithin (tables : List String) (ps : List Phrase) : List String :=
  if beginsSelect ps then (tableRead? ps).toList ++ tables else tables

mutual

/-- The column names in a phrase. -/
def Phrase.mentions (tables : List String) : Phrase → List Mention
  | .column qualifier name => [⟨tables, qualifier, name⟩]
  | .call _ ps | .group ps => mentionsFrom (tablesWithin tables ps) (beginsSelect ps) false ps
  | .word _ | .symbol _ | .mark _ | .literal _ | .value _ => []

/-- The column names in several phrases of a statement or of anything else; the first of them may be
a name that is no column. -/
def mentionsFrom (tables : List String) (statement introduced : Bool) :
    List Phrase → List Mention
  | [] => []
  | p :: ps =>
    (if introduced && p.isColumn then [] else p.mentions tables) ++
      mentionsFrom tables statement (statement && p.introduces) ps

end

/-- The column names in the phrases of a text. -/
def mentions (ps : List Phrase) : List Mention :=
  mentionsFrom (tablesWithin [] ps) (beginsSelect ps) false ps

/-- What the text of a tree says about a column. -/
def Use.mention (u : Use) : Mention := ⟨tableNames u.chain, u.column.qualifier, u.column.name⟩

section Plain

variable {d : Dialect}

/-- Whether a phrase is none of the words that divide a statement. -/
def Phrase.isPlain : Phrase → Bool
  | .word w => !(["SELECT", "FROM", "AS"].contains w)
  | _ => true

/-- Whether some phrases have none of the words that divide a statement. -/
def isPlain (ps : List Phrase) : Bool := ps.all Phrase.isPlain

/-- No phrases are plain. -/
@[simp] lemma isPlain_nil : isPlain [] = true := rfl

/-- Phrases are plain if the first one and the others are. -/
@[simp] lemma isPlain_cons {p : Phrase} {ps : List Phrase} :
    isPlain (p :: ps) = (p.isPlain && isPlain ps) := List.all_cons

/-- Phrases of two lists are plain if those of each list are. -/
@[simp] lemma isPlain_append {ps qs : List Phrase} :
    isPlain (ps ++ qs) = (isPlain ps && isPlain qs) := List.all_append

/-- A symbol is plain. -/
@[simp] lemma isPlain_symbol (s : String) : (Phrase.symbol s).isPlain = true := rfl

/-- A numeral is plain. -/
lemma isPlain_numeral (n : Nat) : (Phrase.word (toString n)).isPlain = true := by
  have hne : toString n ∉ ["SELECT", "FROM", "AS"] := by
    intro hmem
    obtain ⟨c, hc, hd⟩ : ∃ c ∈ (toString n).toList, c.isDigit = false := by
      generalize toString n = w at hmem
      have hall : ["SELECT", "FROM", "AS"].all (fun w => w.toList.any fun c => !c.isDigit) := rfl
      obtain ⟨c, hc, hd⟩ := List.any_eq_true.mp (List.all_eq_true.mp hall w hmem)
      exact ⟨c, hc, (Bool.not_eq_true' _).mp hd⟩
    rw [isDigit_of_mem_toString hc] at hd
    cases hd
  simp only [Phrase.isPlain, List.contains_eq_mem, hne, decide_false, Bool.not_false]

mutual

/-- The phrases of a value have none of the words that divide a statement. -/
theorem Scalar.isPlain_phrases : (x : Scalar) → isPlain (x.phrases d) = true
  | .number n => by
    rw [Scalar.phrases, isPlain_cons, isPlain_numeral]
    rfl
  | .truth b => by cases b <;> cases d <;> rfl
  | .atTimeZone x _ => by
    have hx := Scalar.isPlain_phrases x
    simp [Scalar.phrases, hx, Phrase.isPlain]
  | .operator op l r => by
    have hl := Scalar.isPlain_phrases l
    have hr := Scalar.isPlain_phrases r
    simp [Scalar.phrases, hl, hr]
  | .concat l r => by
    have hl := Scalar.isPlain_phrases l
    have hr := Scalar.isPlain_phrases r
    simp [Scalar.phrases, hl, hr]
  | .negate x => by
    have hx := Scalar.isPlain_phrases x
    simp [Scalar.phrases, hx]
  | .complement x => by
    have hx := Scalar.isPlain_phrases x
    simp [Scalar.phrases, hx]
  | .case test yes no => by
    have ht := Cond.isPlain_phrases test
    have hy := Scalar.isPlain_phrases yes
    have hn := Scalar.isPlain_phrases no
    simp [Scalar.phrases, ht, hy, hn, Phrase.isPlain]
  | .null | .text _ | .param _ | .column _ | .call .. | .cast .. | .extract .. | .extractWeekday _
  | .datePart .. | .datePartWeekday _ | .dateFirst | .dateAdd .. | .interval .. | .localTimestamp
  | .paren _ => rfl

/-- The phrases of a condition have none of the words that divide a statement. -/
theorem Cond.isPlain_phrases : (c : Cond) → isPlain (c.phrases d) = true
  | .compare op l r => by
    have hl := Scalar.isPlain_phrases l
    have hr := Scalar.isPlain_phrases r
    simp [Cond.phrases, hl, hr]
  | .and l r | .or l r => by
    have hl := Cond.isPlain_phrases l
    have hr := Cond.isPlain_phrases r
    simp [Cond.phrases, hl, hr, Phrase.isPlain]
  | .not c => by
    have hc := Cond.isPlain_phrases c
    simp [Cond.phrases, hc, Phrase.isPlain]
  | .isNull x | .isNotNull x | .inList x _ | .inSelect x _ => by
    have hx := Scalar.isPlain_phrases x
    simp [Cond.phrases, hx, Phrase.isPlain]
  | .like x pattern escaped => by
    have hx := Scalar.isPlain_phrases x
    have hp := Scalar.isPlain_phrases pattern
    cases escaped <;> cases d <;>
      simp [Cond.phrases, hx, hp, Phrase.isPlain, Dialect.likeKeyword]
  | .exists _ | .paren _ => rfl

end

/-- The phrases of several values have none of the words that divide a statement. -/
lemma isPlain_scalarListPhrases (xs : List Scalar) : isPlain (scalarListPhrases d xs) = true := by
  induction xs with
  | nil => rfl
  | cons x xs ih =>
    cases xs with
    | nil => exact Scalar.isPlain_phrases x
    | cons y ys =>
      rw [scalarListPhrases, isPlain_append, Scalar.isPlain_phrases, isPlain_cons, ih]
      · rfl
      · exact nofun

end Plain

section Phrases

variable {d : Dialect} {tables : List String} {ps qs : List Phrase}

/-- A plain phrase introduces no name. -/
lemma Phrase.introduces_of_isPlain {p : Phrase} (h : p.isPlain = true) : p.introduces = false := by
  cases p with
  | word w =>
    simp only [Phrase.isPlain, List.contains_eq_mem, Bool.not_eq_true', decide_eq_false_iff_not,
      List.mem_cons, not_or] at h
    simp [Phrase.introduces, h]
  | _ => rfl

/-- Plain phrases begin no statement. -/
lemma beginsSelect_of_isPlain (h : isPlain ps = true) : beginsSelect ps = false := by
  cases ps with
  | nil => rfl
  | cons p ps =>
    cases p with
    | word w =>
      simp only [isPlain_cons, Phrase.isPlain, List.contains_eq_mem, Bool.and_eq_true,
        Bool.not_eq_true', decide_eq_false_iff_not, List.mem_cons, not_or] at h
      simp [beginsSelect, h]
    | _ => rfl

/-- The column names in phrases are those in each of them, as long as none introduces a name. -/
lemma mentionsFrom_append {statement : Bool} (h : ∀ p ∈ ps, p.introduces = false) :
    mentionsFrom tables statement false (ps ++ qs) =
      ps.flatMap (Phrase.mentions tables) ++ mentionsFrom tables statement false qs := by
  induction ps with
  | nil => rfl
  | cons p ps ih =>
    have hp := h p List.mem_cons_self
    have hps := ih fun q hq => h q (List.mem_cons_of_mem p hq)
    rw [List.cons_append, mentionsFrom, hp, Bool.and_false, hps]
    simp

/-- Outside a statement each phrase mentions what it does on its own. -/
lemma mentionsFrom_false :
    mentionsFrom tables false false ps = ps.flatMap (Phrase.mentions tables) := by
  induction ps with
  | nil => rfl
  | cons p ps ih =>
    rw [mentionsFrom, Bool.false_and, Bool.false_and, ih]
    rfl

/-- A word mentions nothing. -/
@[simp] lemma mentions_word (w : String) : Phrase.mentions tables (.word w) = [] := rfl

/-- A symbol mentions nothing. -/
@[simp] lemma mentions_symbol (s : String) : Phrase.mentions tables (.symbol s) = [] := rfl

/-- A mark mentions nothing. -/
@[simp] lemma mentions_mark (c : Char) : Phrase.mentions tables (.mark c) = [] := rfl

/-- A literal text mentions nothing. -/
@[simp] lemma mentions_literal (s : String) : Phrase.mentions tables (.literal s) = [] := rfl

/-- Phrases in parentheses that are no statement mention what each of them does. -/
lemma mentions_group (h : beginsSelect ps = false) :
    Phrase.mentions tables (.group ps) = ps.flatMap (Phrase.mentions tables) := by
  rw [Phrase.mentions, tablesWithin, h, mentionsFrom_false]
  rfl

/-- A call whose arguments are no statement mentions what each of them does. -/
lemma mentions_call {f : String} (h : beginsSelect ps = false) :
    Phrase.mentions tables (.call f ps) = ps.flatMap (Phrase.mentions tables) := by
  rw [Phrase.mentions, tablesWithin, h, mentionsFrom_false]
  rfl

/-- Phrases after plain ones begin no statement if they do not on their own. -/
lemma beginsSelect_append (h : isPlain ps = true) (hq : beginsSelect qs = false) :
    beginsSelect (ps ++ qs) = false := by
  cases ps with
  | nil => exact hq
  | cons p ps =>
    cases p with
    | word w =>
      have hw : beginsSelect (.word w :: ps) = false := beginsSelect_of_isPlain h
      exact hw
    | _ => rfl

/-- The name of a part of a date begins no statement. -/
lemma beginsSelect_field (f : DateField) :
    beginsSelect (.word f.name :: ps) = false ∧
      beginsSelect (.word f.intervalField :: ps) = false := by
  cases f <;> exact ⟨rfl, rfl⟩

/-- The name of a type mentions nothing. -/
lemma TypeName.mentions_phrases (ty : TypeName) :
    ty.phrases.flatMap (Phrase.mentions tables) = [] := by
  cases ty <;> rfl

/-- Phrases before `FROM` do not matter for what a statement reads. -/
lemma tableRead?_append (h : isPlain ps = true) : tableRead? (ps ++ qs) = tableRead? qs := by
  induction ps with
  | nil => rfl
  | cons p ps ih =>
    rw [isPlain_cons, Bool.and_eq_true] at h
    cases p with
    | word w =>
      have hw : w ≠ "FROM" := by
        rintro rfl
        exact nomatch h.1
      rw [List.cons_append, tableRead?, if_neg hw, ih h.2]
    | _ => exact ih h.2

end Phrases

section Trees

variable {d : Dialect}

/-- What a statement returns has none of the words that divide a statement. -/
lemma isPlain_commaed {pss : List (List Phrase)} (h : ∀ ps ∈ pss, isPlain ps = true) :
    isPlain (commaed pss) = true := by
  simp only [isPlain, List.all_eq_true] at h ⊢
  exact forall_mem_commaed rfl h

/-- Commas mention nothing. -/
lemma mentions_commaed {tables : List String} {pss : List (List Phrase)} :
    (commaed pss).flatMap (Phrase.mentions tables) =
      pss.flatMap fun ps => ps.flatMap (Phrase.mentions tables) := by
  induction pss with
  | nil => rfl
  | cons ps pss ih =>
    cases pss with
    | nil => simp [commaed]
    | cons qs qss =>
      rw [commaed, List.flatMap_append, List.flatMap_cons, ih]
      · rfl
      · exact nofun

/-- The head of a statement is plain after its first word. -/
lemma isPlain_head (distinct : Bool) (top : Option Nat) (output : Output) :
    ∃ ps, headPhrases distinct top output = .word "SELECT" :: ps ∧ isPlain ps = true := by
  refine ⟨_, rfl, ?_⟩
  have houtput : isPlain output.phrases = true := by
    cases output with
    | columns names =>
      refine isPlain_commaed ?_
      intro ps hps
      obtain ⟨c, -, rfl⟩ := List.mem_map.mp hps
      rfl
    | count big => cases big <;> rfl
    | _ => rfl
  cases distinct <;> cases top <;> simp [houtput, Phrase.isPlain]

/-- The head of a statement mentions the columns that it returns. -/
lemma mentions_head {tables : List String} (distinct : Bool) (top : Option Nat) (output : Output) :
    (headPhrases distinct top output).flatMap (Phrase.mentions tables) =
      output.names.map fun c => ⟨tables, c.qualifier, c.name⟩ := by
  have houtput : output.phrases.flatMap (Phrase.mentions tables) =
      output.names.map fun c => ⟨tables, c.qualifier, c.name⟩ := by
    cases output with
    | columns names =>
      rw [Output.phrases, mentions_commaed, Output.names, List.flatMap_map, List.map_eq_flatMap]
      rfl
    | count big => cases big <;> rfl
    | _ => rfl
  have htop : ∀ n : Nat, Phrase.mentions tables (.group [.word (toString n)]) = [] := by
    intro n
    have hplain : isPlain [.word (toString n)] = true := by
      rw [isPlain_cons, isPlain_numeral]
      rfl
    rw [mentions_group (beginsSelect_of_isPlain hplain)]
    rfl
  cases top with
  | none => cases distinct <;> simp [headPhrases, houtput]
  | some n =>
    cases distinct <;>
      simp only [headPhrases, List.flatMap_cons, List.flatMap_append, mentions_word, houtput, htop]
        <;> rfl

/-- The sort keys of a statement and its row limit have none of the words that divide it. -/
lemma isPlain_tail (order : List OrderTerm) (limit : Limit) :
    isPlain (orderPhrases order ++ limit.phrases) = true := by
  have horder : isPlain (orderPhrases order) = true := by
    have hterms : isPlain (commaed (order.map OrderTerm.phrases)) = true := by
      refine isPlain_commaed ?_
      intro ps hps
      obtain ⟨t, -, rfl⟩ := List.mem_map.mp hps
      obtain ⟨column, ascending⟩ := t
      cases ascending <;> rfl
    unfold orderPhrases
    split
    · rfl
    · simp [hterms, Phrase.isPlain]
  have hlimit : isPlain limit.phrases = true := by
    have hinteger : ∀ n, isPlain (integerPhrases n) = true := by
      intro n
      cases n <;> simp only [integerPhrases, isPlain_cons, isPlain_numeral] <;> rfl
    cases limit with
    | none => rfl
    | limitOffset count skipped =>
      cases skipped <;>
        simp only [Limit.phrases, isPlain_cons, isPlain_append, isPlain_numeral, hinteger] <;> rfl
    | offsetFetch skipped fetched =>
      cases fetched <;> simp only [Limit.phrases, isPlain_cons, isPlain_numeral] <;> rfl
  rw [isPlain_append, horder, hlimit]
  rfl

/-- The column names in the sort keys of a statement; its row limit has none. -/
lemma mentions_tail {tables : List String} (order : List OrderTerm) (limit : Limit) :
    (orderPhrases order ++ limit.phrases).flatMap (Phrase.mentions tables) =
      order.map fun t => ⟨tables, t.column.qualifier, t.column.name⟩ := by
  have horder : (orderPhrases order).flatMap (Phrase.mentions tables) =
      order.map fun t => ⟨tables, t.column.qualifier, t.column.name⟩ := by
    unfold orderPhrases
    split
    case isTrue h =>
      rw [List.isEmpty_iff.mp h]
      rfl
    case isFalse =>
      rw [List.flatMap_cons, List.flatMap_cons, mentions_commaed, List.flatMap_map,
        List.map_eq_flatMap]
      rfl
  have hlimit : limit.phrases.flatMap (Phrase.mentions tables) = [] := by
    cases limit with
    | none => rfl
    | limitOffset count skipped => cases count <;> cases skipped <;> rfl
    | offsetFetch skipped fetched => cases fetched <;> rfl
  rw [List.flatMap_append, horder, hlimit, List.append_nil]

/-- The conditions of a statement have none of the words that divide it. -/
lemma isPlain_filterPhrases (cs : List Cond) : isPlain (filterPhrases d cs) = true := by
  have hfurther : ∀ cs : List Cond, isPlain (furtherPhrases d cs) = true := by
    intro cs
    induction cs with
    | nil => rfl
    | cons c cs ih => simp [furtherPhrases, Cond.isPlain_phrases, ih, Phrase.isPlain]
  cases cs with
  | nil => rfl
  | cons c cs => simp [filterPhrases, Cond.isPlain_phrases, hfurther, Phrase.isPlain]

/-- The column names in a statement, given those in what it reads and in its conditions. -/
lemma Select.mentionsFrom_of_parts {s : Select} {chain : List From}
    (hsource : ∀ qs, mentionsFrom (tableNames (s.source.froms ++ chain)) true true
      (s.source.phrases d ++ qs) = (s.source.uses chain).map Use.mention ++
        mentionsFrom (tableNames (s.source.froms ++ chain)) true false qs)
    (hfilters : (filterPhrases d s.filters).flatMap
        (Phrase.mentions (tableNames (s.source.froms ++ chain))) =
      (filterUses (s.source.froms ++ chain) s.filters).map Use.mention) :
    mentionsFrom (tablesWithin (tableNames chain) (s.phrases d)) (beginsSelect (s.phrases d)) false
      (s.phrases d) = (s.uses chain).map Use.mention := by
  obtain ⟨hs, hhead, hplain⟩ := isPlain_head s.distinct s.top s.output
  have hbegins : beginsSelect (s.phrases d) = true := by
    rw [Select.phrases_eq, hhead]
    rfl
  -- The tables in scope are found by looking ahead for the first FROM, past the columns read.
  have hread : (tableRead? (s.phrases d)).toList = tableNames s.source.froms := by
    rw [Select.phrases_eq, hhead, List.cons_append, tableRead?, if_neg (by decide),
      tableRead?_append hplain]
    cases s.source <;> rfl
  have htables : tablesWithin (tableNames chain) (s.phrases d) =
      tableNames (s.source.froms ++ chain) := by
    rw [tablesWithin, hbegins, if_pos rfl, hread, tableNames, tableNames, tableNames,
      List.map_append]
  have hintroduces : ∀ p ∈ headPhrases s.distinct s.top s.output, p.introduces = false := by
    rw [hhead]
    intro p hp
    cases hp with
    | head => rfl
    | tail _ hp => exact Phrase.introduces_of_isPlain (List.all_eq_true.mp hplain p hp)
  -- No phrase behind what is read brings another table into scope.
  have hrest : ∀ p ∈ filterPhrases d s.filters ++ (orderPhrases s.order ++ s.limit.phrases),
      p.introduces = false := by
    have hall : isPlain (filterPhrases d s.filters ++
        (orderPhrases s.order ++ s.limit.phrases)) = true := by
      rw [isPlain_append, isPlain_filterPhrases, isPlain_tail]
      rfl
    exact fun p hp => Phrase.introduces_of_isPlain (List.all_eq_true.mp hall p hp)
  have hfrom : ∀ qs, mentionsFrom (tableNames (s.source.froms ++ chain)) true false
      (.word "FROM" :: qs) = mentionsFrom (tableNames (s.source.froms ++ chain)) true true qs :=
    fun _ => rfl
  have htail : mentionsFrom (tableNames (s.source.froms ++ chain)) true false
      (filterPhrases d s.filters ++ (orderPhrases s.order ++ s.limit.phrases) ++ []) = _ :=
    mentionsFrom_append hrest
  rw [List.append_nil] at htail
  rw [htables, hbegins, Select.phrases_eq, mentionsFrom_append hintroduces, mentions_head, hfrom,
    hsource, htail, List.flatMap_append, hfilters, mentions_tail]
  have huses : ∀ c, Use.mention ⟨s.source.froms ++ chain, c⟩ =
      ⟨tableNames (s.source.froms ++ chain), c.qualifier, c.name⟩ := fun _ => rfl
  simp [Select.uses_eq, Function.comp_def, huses, mentionsFrom]

mutual

/-- The column names in the phrases of a value are those of the value. -/
theorem Scalar.mentions_phrases (chain : List From) : (x : Scalar) →
    (x.phrases d).flatMap (Phrase.mentions (tableNames chain)) = (x.uses chain).map Use.mention
  | .null | .number _ | .truth _ | .text _ | .param _ | .dateFirst | .localTimestamp => rfl
  | .column _ => rfl
  -- In brackets a statement may stand, with tables of its own.  Each case says that none does.
  | .call r args => by
    have hargs := scalarList_mentions chain args
    have hplain := beginsSelect_of_isPlain (isPlain_scalarListPhrases (d := d) args)
    simp [Scalar.phrases, mentions_call hplain, hargs, Scalar.uses]
  | .cast x ty => by
    have hx := Scalar.mentions_phrases chain x
    have hplain : beginsSelect (x.phrases d ++ .word "AS" :: ty.phrases) = false :=
      beginsSelect_append x.isPlain_phrases rfl
    simp [Scalar.phrases, mentions_call hplain, hx, TypeName.mentions_phrases, Scalar.uses]
  | .extract f x => by
    have hx := Scalar.mentions_phrases chain x
    simp [Scalar.phrases, mentions_call (beginsSelect_field f).1, hx, Scalar.uses]
  | .extractWeekday x => by
    have hx := Scalar.mentions_phrases chain x
    have hplain : beginsSelect (.word "DOW" :: .word "FROM" :: x.phrases d) = false := rfl
    simp [Scalar.phrases, mentions_call hplain, hx, Scalar.uses]
  | .datePart f x => by
    have hx := Scalar.mentions_phrases chain x
    simp [Scalar.phrases, mentions_call (beginsSelect_field f).1, hx, Scalar.uses]
  | .datePartWeekday x => by
    have hx := Scalar.mentions_phrases chain x
    have hplain : beginsSelect (.word "WEEKDAY" :: .mark ',' :: x.phrases d) = false := rfl
    simp [Scalar.phrases, mentions_call hplain, hx, Scalar.uses]
  | .dateAdd f n x => by
    have hn := Scalar.mentions_phrases chain n
    have hx := Scalar.mentions_phrases chain x
    simp [Scalar.phrases, mentions_call (beginsSelect_field f).1, hn, hx, Scalar.uses]
  | .interval f n => by
    have hn := Scalar.mentions_phrases chain n
    simp [Scalar.phrases, mentions_call (beginsSelect_field f).2, hn, Scalar.uses]
  | .atTimeZone x zone => by
    have hx := Scalar.mentions_phrases chain x
    simp [Scalar.phrases, hx, Scalar.uses]
  | .operator op l r => by
    have hl := Scalar.mentions_phrases chain l
    have hr := Scalar.mentions_phrases chain r
    simp [Scalar.phrases, hl, hr, Scalar.uses]
  | .concat l r => by
    have hl := Scalar.mentions_phrases chain l
    have hr := Scalar.mentions_phrases chain r
    simp [Scalar.phrases, hl, hr, Scalar.uses]
  | .negate x | .complement x => by
    have hx := Scalar.mentions_phrases chain x
    simp [Scalar.phrases, hx, Scalar.uses]
  | .case test yes no => by
    have ht := Cond.mentions_phrases chain test
    have hy := Scalar.mentions_phrases chain yes
    have hn := Scalar.mentions_phrases chain no
    simp [Scalar.phrases, ht, hy, hn, Scalar.uses]
  | .paren x => by
    have hx := Scalar.mentions_phrases chain x
    have hplain := beginsSelect_of_isPlain (x.isPlain_phrases (d := d))
    simp [Scalar.phrases, mentions_group hplain, hx, Scalar.uses]

/-- The column names in the phrases of several values are those of the values. -/
theorem scalarList_mentions (chain : List From) : (xs : List Scalar) →
    (scalarListPhrases d xs).flatMap (Phrase.mentions (tableNames chain)) =
      (listUses chain xs).map Use.mention
  | [] => rfl
  | [x] => by
    have hx := Scalar.mentions_phrases chain x
    simp [scalarListPhrases, hx, listUses]
  | x :: y :: ys => by
    have hx := Scalar.mentions_phrases chain x
    have hys := scalarList_mentions chain (y :: ys)
    rw [scalarListPhrases, List.flatMap_append, List.flatMap_cons, hx, hys, listUses]
    · simp [listUses]
    · exact nofun

/-- The column names in the phrases of a condition are those of the condition. -/
theorem Cond.mentions_phrases (chain : List From) : (c : Cond) →
    (c.phrases d).flatMap (Phrase.mentions (tableNames chain)) = (c.uses chain).map Use.mention
  | .compare op l r => by
    have hl := Scalar.mentions_phrases chain l
    have hr := Scalar.mentions_phrases chain r
    simp [Cond.phrases, hl, hr, Cond.uses]
  | .and l r | .or l r => by
    have hl := Cond.mentions_phrases chain l
    have hr := Cond.mentions_phrases chain r
    simp [Cond.phrases, hl, hr, Cond.uses]
  | .not c => by
    have hc := Cond.mentions_phrases chain c
    simp [Cond.phrases, hc, Cond.uses]
  | .isNull x | .isNotNull x => by
    have hx := Scalar.mentions_phrases chain x
    simp [Cond.phrases, hx, Cond.uses]
  | .inList x members => by
    have hx := Scalar.mentions_phrases chain x
    have hmembers := scalarList_mentions chain members
    have hplain := beginsSelect_of_isPlain (isPlain_scalarListPhrases (d := d) members)
    simp [Cond.phrases, hx, mentions_group hplain, hmembers, Cond.uses]
  -- Here the brackets hold a statement, and its names are read in the scope of its own table.
  | .inSelect x s => by
    have hx := Scalar.mentions_phrases chain x
    have hs := Select.mentionsFrom_phrases chain s
    simp [Cond.phrases, hx, Phrase.mentions, hs, Cond.uses]
  | .like x pattern escaped => by
    have hx := Scalar.mentions_phrases chain x
    have hp := Scalar.mentions_phrases chain pattern
    cases escaped <;> simp [Cond.phrases, hx, hp, Cond.uses]
  | .exists s => by
    have hs := Select.mentionsFrom_phrases chain s
    simp [Cond.phrases, Phrase.mentions, hs, Cond.uses]
  | .paren c => by
    have hc := Cond.mentions_phrases chain c
    have hplain := beginsSelect_of_isPlain (c.isPlain_phrases (d := d))
    simp [Cond.phrases, mentions_group hplain, hc, Cond.uses]

/-- The column names in the phrases of further conditions are those of the conditions. -/
theorem furtherPhrases_mentions (chain : List From) : (cs : List Cond) →
    (furtherPhrases d cs).flatMap (Phrase.mentions (tableNames chain)) =
      (filterUses chain cs).map Use.mention
  | [] => rfl
  | c :: cs => by
    have hc := Cond.mentions_phrases chain c
    have hcs := furtherPhrases_mentions chain cs
    simp [furtherPhrases, hc, hcs, filterUses]

/-- The column names in the phrases of the conditions of a statement are those of the conditions. -/
theorem filterPhrases_mentions (chain : List From) : (cs : List Cond) →
    (filterPhrases d cs).flatMap (Phrase.mentions (tableNames chain)) =
      (filterUses chain cs).map Use.mention
  | [] => rfl
  | c :: cs => by
    have hc := Cond.mentions_phrases chain c
    have hcs := furtherPhrases_mentions chain cs
    simp [filterPhrases, hc, hcs, filterUses]

/-- The column names in the phrases of a statement are those of the statement. -/
theorem Select.mentionsFrom_phrases (chain : List From) : (s : Select) →
    mentionsFrom (tablesWithin (tableNames chain) (s.phrases d)) (beginsSelect (s.phrases d)) false
        (s.phrases d) = (s.uses chain).map Use.mention
  | ⟨distinct, top, output, .table name row, filters, order, limit⟩ =>
    Select.mentionsFrom_of_parts (fun _ => rfl) (filterPhrases_mentions _ filters)
  | ⟨distinct, top, output, .derived s label, filters, order, limit⟩ => by
    have hs := Select.mentionsFrom_phrases chain s
    refine Select.mentionsFrom_of_parts (fun qs => ?_) (filterPhrases_mentions _ filters)
    rw [Source.uses, ← hs]
    rfl

end

end Trees

end TableQuery.Sql
