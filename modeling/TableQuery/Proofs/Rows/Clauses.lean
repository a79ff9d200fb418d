import TableQuery.Number.Integer
import TableQuery.Proofs.Tree.Phrases

/-!
# The clauses of a statement

How the phrases of a `SELECT` statement divide into clauses (`clauses?`): each clause but the first
starts with a word of its own and ends before the next such word.  What a clause contains is left as
phrases, apart from the row limit, which stands in one of three places and becomes a window.

The phrases of a tree divide into the parts of the tree (`Select.clauses?_phrases`).
-/

namespace TableQuery.Sql

/-- A range of rows: how many are left out at the start, and how many are read at most. -/
structure Window where
  skip : Nat
  take : Option Nat

/-- The rows in a window. -/
def Window.of {α : Type} (w : Window) (rows : List α) : List α :=
  match w.take with
  | some n => (rows.drop w.skip).take n
  | none => rows.drop w.skip

/-- The clauses of a statement. -/
structure Clauses where
  /-- Whether equal rows count once. -/
  distinct : Bool
  /-- What is returned. -/
  output : List Phrase
  /-- What is read. -/
  source : List Phrase
  /-- The conditions a row must satisfy. -/
  filter : Option (List Phrase)
  /-- The sort keys. -/
  order : Option (List Phrase)
  /-- The rows that are returned. -/
  window : Window

/-- The words that start a clause. -/
def clauseWords : List String := ["FROM", "WHERE", "ORDER", "limit", "OFFSET"]

/-- Whether a phrase starts a clause. -/
def Phrase.startsClause : Phrase → Bool
  | .word w => decide (w ∈ clauseWords)
  | _ => false

/-- The phrases before the next clause, and those from there on. -/
def splitClause (ps : List Phrase) : List Phrase × List Phrase :=
  (ps.takeWhile fun p => !p.startsClause, ps.dropWhile fun p => !p.startsClause)

/-- What stands in the clause that a word starts, if that clause is next, and the phrases after
it. -/
def readClause (w : String) : List Phrase → Option (List Phrase) × List Phrase
  | .word v :: ps =>
    if v = w then ((splitClause ps).1, (splitClause ps).2) else (none, .word v :: ps)
  | ps => (none, ps)

/-- Whether equal rows count once, and the phrases after that. -/
def readDistinct : List Phrase → Bool × List Phrase
  | .word w :: ps => if w = "DISTINCT" then (true, ps) else (false, .word w :: ps)
  | ps => (false, ps)

/-- The natural number that a phrase is. -/
def Phrase.natural? : Phrase → Option Nat
  | .word w => Number.readNat w.toList
  | _ => none

/-- The row limit before the output, and the phrases after that. -/
def readTop : List Phrase → Option Nat × List Phrase
  | .word w :: .group [p] :: ps =>
    if w = "TOP" then (p.natural?, ps) else (none, .word w :: .group [p] :: ps)
  | ps => (none, ps)

/-- A number of rows, where a negative number stands for all rows, and the phrases after that. -/
def readCount? : List Phrase → Option (Option Nat × List Phrase)
  | .symbol s :: p :: ps => if s = "-" then p.natural?.map fun _ => (none, ps) else none
  | p :: ps => p.natural?.map fun n => (some n, ps)
  | [] => none

/-- The words of a list of phrases, where others count as empty. -/
def wordsOf (ps : List Phrase) : List String :=
  ps.map fun
    | .word w => w
    | _ => ""

/-- The window that a row limit at the end stands for. -/
def endWindow? : List Phrase → Option Window
  | .word w :: ps =>
    if w = "limit" then do
      let (take, rest) ← readCount? ps
      match rest with
      | [] => some ⟨0, take⟩
      | [.word v, n] => if v = "offset" then n.natural?.map (⟨·, take⟩) else none
      | _ => none
    else if w = "OFFSET" then
      match ps with
      | [n, .word r] => if r = "ROWS" then n.natural?.map (⟨·, none⟩) else none
      | [n, .word r, f, x, m, r', o] =>
        if r = "ROWS" ∧ wordsOf [f, x, r', o] = ["FETCH", "NEXT", "ROWS", "ONLY"] then do
          return ⟨← n.natural?, some (← m.natural?)⟩
        else none
      | _ => none
    else none
  | _ => none

/-- The window that the row limits of a statement stand for, of which there is at most one. -/
def window? : Option Nat → List Phrase → Option Window
  | top, [] => some ⟨0, top⟩
  | none, ps => endWindow? ps
  | some _, _ => none

/-- The clauses that phrases divide into. -/
def clauses? : List Phrase → Option Clauses
  | .word w :: ps =>
    if w = "SELECT" then do
      let (distinct, ps) := readDistinct ps
      let (top, ps) := readTop ps
      let (output, ps) := splitClause ps
      let (source, ps) := readClause "FROM" ps
      let (filter, ps) := readClause "WHERE" ps
      let (order, ps) := readClause "ORDER" ps
      return { distinct, output, source := ← source, filter, order, window := ← window? top ps }
    else none
  | _ => none

section Splitting

/-- Phrases of which none starts a clause. -/
def IsInside (ps : List Phrase) : Prop := ∀ p ∈ ps, p.startsClause = false

/-- Whether some phrases are at an end or start a clause. -/
def AtClause : List Phrase → Prop
  | [] => True
  | p :: _ => p.startsClause = true

variable {ps rest : List Phrase}

/-- Phrases of which none starts a clause are split off up to the next clause. -/
lemma splitClause_append (hps : IsInside ps) (hrest : AtClause rest) :
    splitClause (ps ++ rest) = (ps, rest) := by
  have hall : ∀ p ∈ ps, (!p.startsClause) = true := fun p hp => by rw [hps p hp]; rfl
  rw [splitClause, List.takeWhile_append_of_pos hall, List.dropWhile_append_of_pos hall]
  cases rest with
  | nil => simp
  | cons p rest =>
    have hp : (!p.startsClause) = false := by rw [hrest]; rfl
    rw [List.takeWhile_cons_of_neg (by simp [hp]), List.dropWhile_cons_of_neg (by simp [hp]),
      List.append_nil]

/-- A clause is read up to the next one. -/
lemma readClause_append (w : String) (hps : IsInside ps) (hrest : AtClause rest) :
    readClause w (.word w :: (ps ++ rest)) = (some ps, rest) := by
  rw [readClause, if_pos rfl, splitClause_append hps hrest]

/-- The word that some phrases start with. -/
def leadingWord? : List Phrase → Option String
  | .word w :: _ => some w
  | _ => none

/-- A clause that is not there is not read. -/
lemma readClause_skip {w : String} (h : leadingWord? rest ≠ some w) :
    readClause w rest = (none, rest) := by
  unfold readClause
  split
  case h_1 v qs =>
    refine if_neg fun hv => h ?_
    rw [hv]
    rfl
  case h_2 => rfl

/-- A word that is not there is not read. -/
lemma readDistinct_skip (h : leadingWord? ps ≠ some "DISTINCT") :
    readDistinct ps = (false, ps) := by
  unfold readDistinct
  split
  case h_1 v qs =>
    refine if_neg fun hv => h ?_
    rw [hv]
    rfl
  case h_2 => rfl

/-- There is no row limit before the output if it does not come next. -/
lemma readTop_skip (h : leadingWord? ps ≠ some "TOP") : readTop ps = (none, ps) := by
  unfold readTop
  split
  case h_1 v p qs =>
    refine if_neg fun hv => h ?_
    rw [hv]
    rfl
  case h_2 => rfl

end Splitting

section Trees

variable {d : Dialect}

/-- The words that stand inside the clauses of a statement. -/
def innerWords : List String := ["1", "AS", "AND", "BY", "ASC", "DESC"]

/-- Whether a phrase may stand inside a clause. -/
def Phrase.isInner : Phrase → Bool
  | .word w => decide (w ∈ innerWords)
  | _ => true

/-- Phrases of which each may stand inside a clause. -/
def IsInner (ps : List Phrase) : Prop := ∀ p ∈ ps, p.isInner = true

/-- The words inside a clause are few. -/
lemma IsInner.word_mem {ps : List Phrase} {w : String} (h : IsInner ps) (hw : .word w ∈ ps) :
    w ∈ innerWords :=
  of_decide_eq_true (h (.word w) hw)

/-- The words inside a clause begin no other clause. -/
lemma IsInner.isInside {ps : List Phrase} (h : IsInner ps) : IsInside ps := by
  have hapart : ∀ w ∈ innerWords, w ∉ clauseWords := by decide
  intro p hp
  cases p with
  | word w => exact decide_eq_false (hapart w (h.word_mem hp))
  | _ => rfl

/-- Phrases with commas between them may stand inside a clause if all of them may. -/
lemma isInner_output (o : Output) : IsInner o.phrases := by
  cases o with
  | all => exact List.forall_mem_singleton.mpr rfl
  | columns names =>
    refine forall_mem_commaed rfl ?_
    intro ps hps
    obtain ⟨c, -, rfl⟩ := List.mem_map.mp hps
    exact List.forall_mem_singleton.mpr rfl
  | one => exact List.forall_mem_singleton.mpr (by decide)
  | count big => exact List.forall_mem_singleton.mpr rfl

/-- The source of a statement stands inside its clause. -/
lemma isInner_source (s : Source) : IsInner (s.phrases d) := by
  cases s with
  | table name row => exact List.forall_mem_singleton.mpr rfl
  | derived s label =>
    have has : (Phrase.word "AS").isInner = true := by decide
    exact List.forall_mem_cons.mpr ⟨rfl, List.forall_mem_cons.mpr
      ⟨has, List.forall_mem_singleton.mpr rfl⟩⟩

/-- A single phrase stands inside a clause. -/
lemma isInner_cond {c : Cond} (h : c.isSingle = true) : IsInner (c.phrases d) := by
  cases c with
  | «exists» s => exact List.forall_mem_singleton.mpr rfl
  | paren c => exact List.forall_mem_singleton.mpr rfl
  | _ => cases h

/-- The conditions of a filter stand inside its clause. -/
lemma isInner_filters {c : Cond} {cs : List Cond} (h : ∀ b ∈ c :: cs, b.isSingle = true) :
    IsInner (c.phrases d ++ furtherPhrases d cs) := by
  induction cs generalizing c with
  | nil =>
    rw [furtherPhrases, List.append_nil]
    exact isInner_cond (h c List.mem_cons_self)
  | cons b bs ih =>
    have hand : (Phrase.word "AND").isInner = true := by decide
    have hbs := ih fun a ha => h a (List.mem_cons_of_mem c ha)
    rw [furtherPhrases]
    exact List.forall_mem_append.mpr ⟨isInner_cond (h c List.mem_cons_self),
      List.forall_mem_cons.mpr ⟨hand, hbs⟩⟩

/-- What a statement sorts by stands inside its clause. -/
lemma isInner_order (order : List OrderTerm) :
    IsInner (.word "BY" :: commaed (order.map OrderTerm.phrases)) := by
  refine List.forall_mem_cons.mpr ⟨by decide, forall_mem_commaed rfl ?_⟩
  intro ps hps
  obtain ⟨⟨column, ascending⟩, -, rfl⟩ := List.mem_map.mp hps
  have hdirection : ∀ b : Bool, (Phrase.word (if b then "ASC" else "DESC")).isInner = true := by
    decide
  exact List.forall_mem_cons.mpr ⟨rfl, List.forall_mem_singleton.mpr (hdirection ascending)⟩

/-- The conditions of a statement, if there are any. -/
def filterInside (d : Dialect) : List Cond → Option (List Phrase)
  | [] => none
  | c :: cs => some (c.phrases d ++ furtherPhrases d cs)

/-- The sort keys of a statement, if there are any. -/
def orderInside (order : List OrderTerm) : Option (List Phrase) :=
  if order.isEmpty then none
  else some (.word "BY" :: commaed (order.map OrderTerm.phrases))

/-- The window that the row limit at the end of a statement stands for. -/
def Limit.window : Limit → Window
  | .none => ⟨0, .none⟩
  | .limitOffset (.ofNat n) skipped => ⟨skipped.getD 0, some n⟩
  | .limitOffset (.negSucc _) skipped => ⟨skipped.getD 0, .none⟩
  | .offsetFetch skipped fetched => ⟨skipped, fetched⟩

/-- The window of a statement that has no row limit at both places. -/
def Select.window (s : Select) : Window :=
  match s.top with
  | some n => ⟨0, some n⟩
  | none => s.limit.window

/-- The clauses of a statement. -/
def Select.clauses (d : Dialect) (s : Select) : Clauses where
  distinct := s.distinct
  output := s.output.phrases
  source := s.source.phrases d
  filter := filterInside d s.filters
  order := orderInside s.order
  window := s.window

/-- A numeral is read as its number. -/
@[simp] lemma natural?_word (n : Nat) : (Phrase.word n.repr).natural? = some n :=
  readNat_toString n

/-- A window at the end is read from its phrases. -/
lemma endWindow?_phrases {l : Limit} (h : l ≠ .none) : endWindow? l.phrases = some l.window := by
  cases l with
  | none => exact absurd rfl h
  | limitOffset count skipped =>
    cases count with
    | ofNat n =>
      cases skipped <;>
        simp [Limit.phrases, integerPhrases, endWindow?, readCount?, Limit.window]
    | negSucc n =>
      cases skipped <;>
        simp [Limit.phrases, integerPhrases, endWindow?, readCount?, Limit.window]
  | offsetFetch skipped fetched =>
    cases fetched <;>
      simp [Limit.phrases, endWindow?, Limit.window, wordsOf]

/-- The window of a statement is read from its row limit or from its end. -/
lemma window?_phrases {s : Select} (h : s.top = none ∨ s.limit = .none) :
    window? s.top s.limit.phrases = some s.window := by
  unfold Select.window
  cases htop : s.top with
  | some n =>
    obtain h | h := h
    · rw [htop] at h
      cases h
    · rw [h]
      rfl
  | none =>
    cases hlimit : s.limit with
    | none => rfl
    | limitOffset count skipped =>
      have hne : s.limit ≠ .none := by simp [hlimit]
      have hend := endWindow?_phrases hne
      rw [hlimit] at hend
      exact hend
    | offsetFetch skipped fetched =>
      have hne : s.limit ≠ .none := by simp [hlimit]
      have hend := endWindow?_phrases hne
      rw [hlimit] at hend
      exact hend

/-- A window begins a clause. -/
lemma atClause_limit (l : Limit) : AtClause l.phrases := by
  cases l with
  | none => trivial
  | limitOffset count skipped => exact (by decide : (Phrase.word "limit").startsClause = true)
  | offsetFetch skipped fetched => exact (by decide : (Phrase.word "OFFSET").startsClause = true)

/-- The words that a window may begin with. -/
lemma leadingWord?_limit (l : Limit) :
    leadingWord? l.phrases = none ∨ leadingWord? l.phrases = some "limit" ∨
      leadingWord? l.phrases = some "OFFSET" := by
  cases l with
  | none => exact .inl rfl
  | limitOffset count skipped => exact .inr (.inl rfl)
  | offsetFetch skipped fetched => exact .inr (.inr rfl)

/-- The sorting of a statement is read up to the window. -/
lemma readClause_order (order : List OrderTerm) (l : Limit) :
    readClause "ORDER" (orderPhrases order ++ l.phrases) = (orderInside order, l.phrases) := by
  unfold orderPhrases orderInside
  split
  case isTrue =>
    have hlimit : leadingWord? l.phrases ≠ some "ORDER" := by
      obtain h | h | h := leadingWord?_limit l <;> simp [h]
    exact readClause_skip hlimit
  case isFalse => exact readClause_append "ORDER" (isInner_order order).isInside (atClause_limit l)

/-- A sorting begins a clause. -/
lemma atClause_order (order : List OrderTerm) (l : Limit) :
    AtClause (orderPhrases order ++ l.phrases) := by
  unfold orderPhrases
  split
  · exact atClause_limit l
  · exact (by decide : (Phrase.word "ORDER").startsClause = true)

/-- The filter of a statement is read up to the sorting. -/
lemma readClause_filters {cs : List Cond} (h : ∀ c ∈ cs, c.isSingle = true)
    (order : List OrderTerm) (l : Limit) :
    readClause "WHERE" (filterPhrases d cs ++ (orderPhrases order ++ l.phrases)) =
      (filterInside d cs, orderPhrases order ++ l.phrases) := by
  cases cs with
  | nil =>
    refine readClause_skip ?_
    rw [filterPhrases, List.nil_append, orderPhrases]
    split
    · obtain h | h | h := leadingWord?_limit l <;> simp [h]
    · simp [leadingWord?]
  | cons c cs =>
    exact readClause_append "WHERE" (isInner_filters h).isInside (atClause_order order l)

/-- A filter begins a clause. -/
lemma atClause_filters (cs : List Cond) (order : List OrderTerm) (l : Limit) :
    AtClause (filterPhrases d cs ++ (orderPhrases order ++ l.phrases)) := by
  cases cs with
  | nil => exact atClause_order order l
  | cons c cs => exact (by decide : (Phrase.word "WHERE").startsClause = true)

/-- What a statement returns starts with none of the words before it. -/
lemma leadingWord?_output (o : Output) (rest : List Phrase) :
    leadingWord? (o.phrases ++ .word "FROM" :: rest) ≠ some "DISTINCT" ∧
      leadingWord? (o.phrases ++ .word "FROM" :: rest) ≠ some "TOP" := by
  cases o with
  | columns names =>
    cases names with
    | nil => simp [Output.phrases, commaed, leadingWord?]
    | cons c cs =>
      cases cs with
      | nil => simp [Output.phrases, commaed, leadingWord?, ColumnName.phrase]
      | cons b bs => simp [Output.phrases, commaed, leadingWord?, ColumnName.phrase]
  | _ => simp [Output.phrases, leadingWord?]

/-- The phrases of a row limit before the output. -/
def topPhrases : Option Nat → List Phrase
  | some n => [.word "TOP", .group [.word (toString n)]]
  | none => []

/-- Whether rows are distinct is read from the head of a statement. -/
lemma readDistinct_phrases {distinct : Bool} {rest : List Phrase}
    (h : leadingWord? rest ≠ some "DISTINCT") :
    readDistinct ((if distinct then [Phrase.word "DISTINCT"] else []) ++ rest) =
      (distinct, rest) := by
  cases distinct with
  | true => rfl
  | false => exact readDistinct_skip h

/-- A row limit is read from the head of a statement. -/
lemma readTop_phrases {top : Option Nat} {rest : List Phrase} (h : leadingWord? rest ≠ some "TOP") :
    readTop (topPhrases top ++ rest) = (top, rest) := by
  cases top with
  | none => exact readTop_skip h
  | some n =>
    have hn : (Phrase.word (toString n)).natural? = some n := natural?_word n
    rw [topPhrases, List.cons_append, List.cons_append, List.nil_append, readTop, if_pos rfl, hn]

/-- The phrases of a statement divide into its clauses, if its conditions are single phrases. -/
theorem clauses?_phrases {s : Select} (hfilters : ∀ c ∈ s.filters, c.isSingle = true)
    (hlimits : s.top = none ∨ s.limit = .none) : clauses? (s.phrases d) = some (s.clauses d) := by
  -- The clauses are split off from the left; all that comes behind the source is kept together.
  obtain ⟨after, hafter, hread, hphrases⟩ : ∃ after, AtClause after ∧
      readClause "WHERE" after =
        (filterInside d s.filters, orderPhrases s.order ++ s.limit.phrases) ∧
      s.phrases d = .word "SELECT" :: ((if s.distinct then [.word "DISTINCT"] else []) ++
        (topPhrases s.top ++
          (s.output.phrases ++ .word "FROM" :: (s.source.phrases d ++ after)))) := by
    refine ⟨_, atClause_filters s.filters s.order s.limit,
      readClause_filters hfilters s.order s.limit, ?_⟩
    rw [Select.phrases_eq]
    cases htop : s.top <;> simp [headPhrases, topPhrases]
  obtain ⟨hdistinct, htop⟩ := leadingWord?_output s.output (s.source.phrases d ++ after)
  have hdistinct : leadingWord? (topPhrases s.top ++
      (s.output.phrases ++ .word "FROM" :: (s.source.phrases d ++ after))) ≠ some "DISTINCT" := by
    cases s.top with
    | none => exact hdistinct
    | some n => simp [topPhrases, leadingWord?]
  have hfrom : AtClause (.word "FROM" :: (s.source.phrases d ++ after)) :=
    (by decide : (Phrase.word "FROM").startsClause = true)
  have houtput := splitClause_append (isInner_output s.output).isInside hfrom
  have hsource := readClause_append "FROM" (isInner_source (d := d) s.source).isInside hafter
  rw [hphrases, clauses?, if_pos rfl, readDistinct_phrases hdistinct]
  simp only [readTop_phrases htop, houtput, hsource, hread, readClause_order,
    window?_phrases hlimits]
  rfl

end Trees

end TableQuery.Sql
