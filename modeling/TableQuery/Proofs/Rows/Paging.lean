import TableQuery.Proofs.Rows.Terminals

/-!
# Pages

The row limits of a statement give the rows that its query wants to see, in each dialect
(`compile_pages`): as many rows are left out as the query skips, and of the next ones as many are
returned as the query takes, or fewer if its terminal needs fewer.  Where rows are left out they are
sorted; and without sort keys of the query's own, they are sorted only there or where the last one
is read.  All of this is true of the statement itself, unless it counts a page or distinct rows:
then it is true of the statement whose rows are counted.

Each dialect writes its row limits in words of its own (`limitWords`), which occur nowhere else in a
statement (`Select.word_cases`).
-/

namespace TableQuery

/-- The rows that a query wants to see of those that it lists. -/
def Query.window (q : Query) : Sql.Window := ⟨q.skip.getD 0, q.effectiveTake⟩

/-- Whether a query counts the rows of another statement. -/
def Query.countsPage (q : Query) : Bool := q.terminal.isCount && (q.isPaged || q.distinct)

/-- Terminals that count or ask for any row do not read the last one. -/
lemma Terminal.isLast_of_unsorted {t : Terminal} (h : t.isCount = true ∨ t = .any) :
    t.isLast = false := by
  cases t with
  | last | lastOrDefault => obtain h | h := h <;> cases h
  | _ => rfl

/-- Unless a query counts the rows of another statement, it has sort keys if it leaves out rows; and
if it has no orderings, it has sort keys only then or if the last row is read. -/
lemma Query.sortKeys_ne_nil {q : Query} {keys : List SortKey} (hplain : q.countsPage = false)
    (h : q.sortKeys = .ok keys) :
    (q.skip.isSome = true → keys ≠ []) ∧
      (q.orderings = [] → (keys ≠ [] ↔ q.skip.isSome = true ∨ q.terminal.isLast = true)) := by
  obtain ⟨rfl, hunsorted⟩ | ⟨ks, rfl, hks⟩ := q.sortKeys_cases h
  · -- A query that is not sorted leaves out no rows, since a page is counted as another statement.
    have hskip : q.skip = none := by
      obtain hcount | ⟨-, hskip⟩ := hunsorted
      · rw [countsPage, hcount, Bool.true_and, isPaged] at hplain
        simp_all
      · exact hskip
    have hlast : q.terminal.isLast = false :=
      Terminal.isLast_of_unsorted (hunsorted.imp_right And.left)
    simp [hskip, hlast]
  · have hdirected : (if q.terminal.isLast then ks.map SortKey.reverse else ks) ≠ [] ↔ ks ≠ [] := by
      split <;> simp
    rw [hdirected]
    obtain ⟨rfl, hown⟩ | ⟨i, -, rfl, -, hneeded⟩ := hks
    · refine ⟨fun hskip hnil => ?_, fun hnil => ?_⟩
      · rw [(hown hnil).1] at hskip
        cases hskip
      · obtain ⟨hskip, hlast⟩ := hown hnil
        simp [hnil, hskip, hlast]
    · exact ⟨fun _ => List.cons_ne_nil _ _, fun _ => iff_of_true (List.cons_ne_nil _ _) hneeded⟩

namespace Sql

section Words

variable {d : Dialect} {w : String}

/-- The words in which a dialect writes row limits. -/
def limitWords : Dialect → List String
  | .sqlServer => ["TOP", "OFFSET", "FETCH"]
  | _ => ["limit", "offset"]

/-- Whether phrases write no row limits in the words of another dialect. -/
def LimitsOf (d : Dialect) (ps : List Phrase) : Prop :=
  ∀ e, ∀ w ∈ limitWords e, .word w ∈ ps → w ∈ limitWords d

/-- The words with which a statement is written, apart from its row limits. -/
def selectWords : List String := ["SELECT", "DISTINCT", "FROM", "WHERE", "ORDER"] ++ innerWords

/-- Words inside clauses are among those with which a statement is written. -/
lemma mem_selectWords (h : w ∈ innerWords) : w ∈ selectWords :=
  List.mem_append_right ["SELECT", "DISTINCT", "FROM", "WHERE", "ORDER"] h

/-- The words that a filter has itself. -/
lemma filterPhrases_word_mem {cs : List Cond} (hsingle : ∀ c ∈ cs, c.isSingle = true)
    (h : .word w ∈ filterPhrases d cs) : w ∈ selectWords := by
  cases cs with
  | nil => cases h
  | cons c cs =>
    obtain h | h := List.mem_cons.mp h
    · cases h
      decide
    · exact mem_selectWords ((isInner_filters hsingle).word_mem h)

/-- The words that a sorting has. -/
lemma orderPhrases_word_mem {order : List OrderTerm} (h : .word w ∈ orderPhrases order) :
    w ∈ selectWords := by
  unfold orderPhrases at h
  split at h
  case isTrue => cases h
  case isFalse =>
    obtain h | h := List.mem_cons.mp h
    · cases h
      decide
    · exact mem_selectWords ((isInner_order order).word_mem h)

/-- The words before what a statement reads: only a row limit has others than `selectWords`. -/
lemma headPhrases_word_mem {distinct : Bool} {top : Option Nat} {o : Output}
    (h : .word w ∈ headPhrases distinct top o) : w ∈ selectWords ∨ top ≠ none ∧ w = "TOP" := by
  obtain h | h := List.mem_cons.mp h
  · cases h
    exact .inl (by decide)
  obtain h | h := List.mem_append.mp h
  · obtain h | h := List.mem_append.mp h
    · cases distinct with
      | true =>
        cases List.mem_singleton.mp h
        exact .inl (by decide)
      | false => cases h
    · cases top with
      | some n =>
        have htop : w = "TOP" := by simpa using h
        exact .inr ⟨nofun, htop⟩
      | none => cases h
  · exact .inl (mem_selectWords ((isInner_output o).word_mem h))

/-- A word of a statement is one of a fixed few or belongs to a row limit. -/
lemma Select.word_cases {s : Select} (hsingle : ∀ c ∈ s.filters, c.isSingle = true)
    (h : .word w ∈ s.phrases d) :
    w ∈ selectWords ∨ (s.top ≠ none ∧ w = "TOP") ∨ .word w ∈ s.limit.phrases := by
  rw [Select.phrases_eq] at h
  obtain h | h := List.mem_append.mp h
  · exact (headPhrases_word_mem h).imp_right .inl
  obtain h | h := List.mem_cons.mp h
  · cases h
    exact .inl (by decide)
  obtain h | h := List.mem_append.mp h
  · exact .inl (mem_selectWords ((isInner_source s.source).word_mem h))
  obtain h | h := List.mem_append.mp h
  · exact .inl (filterPhrases_word_mem hsingle h)
  obtain h | h := List.mem_append.mp h
  · exact .inl (orderPhrases_word_mem h)
  · exact .inr (.inr h)

/-- The words in which dialects write row limits are no numbers and have no other use. -/
lemma limitWords_apart {e : Dialect} (hw : w ∈ limitWords e) :
    w ∉ selectWords ∧ w ∉ ["ROWS", "NEXT", "ONLY"] ∧ ∀ n : Nat, w ≠ n.repr := by
  have hall : ∀ v ∈ ["TOP", "OFFSET", "FETCH", "limit", "offset"],
      v ∉ selectWords ∧ v ∉ ["ROWS", "NEXT", "ONLY"] ∧ (Phrase.word v).natural? = none := by
    decide
  have hmem : w ∈ ["TOP", "OFFSET", "FETCH", "limit", "offset"] := by
    cases e with
    | sqlServer => exact List.mem_append_left ["limit", "offset"] hw
    | _ => exact List.mem_append_right ["TOP", "OFFSET", "FETCH"] hw
  obtain ⟨hselect, hfetch, hnumber⟩ := hall w hmem
  refine ⟨hselect, hfetch, ?_⟩
  rintro n rfl
  cases hnumber.symm.trans (natural?_word n)

/-- The row limit at the end of a statement is written in the words of the dialect. -/
lemma limit_word_mem {e : Dialect} {take skip : Option Nat} (hw : w ∈ limitWords e)
    (h : .word w ∈ (Limit.of d take skip).phrases) : w ∈ limitWords d := by
  obtain ⟨-, hfetch, hnumber⟩ := limitWords_apart hw
  simp only [List.mem_cons, List.not_mem_nil, or_false, not_or] at hfetch
  have hcount : ∀ i : Int, .word w ∉ integerPhrases i := by
    intro i
    cases i <;> simp [integerPhrases, hnumber]
  cases d <;> cases take <;> cases skip <;>
    simp [Limit.of, Limit.phrases, limitWords, hcount, hnumber, hfetch] at h ⊢ <;> tauto

/-- The row limits of a statement are written in the words of the dialect. -/
lemma limitsOf_phrases {s : Select} {take skip : Option Nat}
    (hsingle : ∀ c ∈ s.filters, c.isSingle = true) (htop : s.top = topOf d take skip)
    (hlimit : s.limit = Limit.of d take skip) : LimitsOf d (s.phrases d) := by
  intro e w hw hmem
  obtain hselect | ⟨hsome, rfl⟩ | hend := Select.word_cases hsingle hmem
  · exact absurd hselect (limitWords_apart hw).1
  · cases d with
    | sqlServer => exact List.mem_cons_self
    | _ => exact absurd htop hsome
  · rw [hlimit] at hend
    exact limit_word_mem hw hend

end Words

section Pages

variable {d : Dialect} {q : Query} {c : Clauses} {output : Output} {filters : List Cond}
  {order : List OrderTerm}

/-- What the clauses of a statement make of the rows for the page of a query.  Where a dialect
demands a number of rows, the largest one stands for all of them, for no table has more. -/
structure Clauses.Pages (q : Query) (c : Clauses) : Prop where
  offset : c.window.skip = q.skip.getD 0
  limit : c.window.take = q.effectiveTake ∨
    q.effectiveTake = none ∧ c.window.take = some 9223372036854775807
  rows {α : Type} (rows : List α) : rows.length ≤ 9223372036854775807 →
    c.window.of rows = q.window.of rows
  ordered : q.skip.isSome = true →
    ∃ t ts, c.order = some (.word "BY" :: commaed ((t :: ts).map OrderTerm.phrases))
  order_iff : q.orderings = [] →
    (c.order.isSome = true ↔ q.skip.isSome = true ∨ q.terminal.isLast = true)

/-- The number of rows of a page is limited as it should be, or by the number that stands for all
of them. -/
lemma pageSize_cases (d : Dialect) (take skip : Option Nat) :
    pageSize d take skip = take ∨
      take = none ∧ pageSize d take skip = some 9223372036854775807 := by
  unfold pageSize
  split
  · split
    · exact .inr ⟨rfl, rfl⟩
    · exact .inl rfl
  · exact .inl rfl

/-- A page of the largest size is all of the rows that there can be. -/
lemma Window.of_pageSize {α : Type} {skip : Nat} {take size : Option Nat} {rows : List α}
    (hsize : size = take ∨ take = none ∧ size = some 9223372036854775807)
    (hrows : rows.length ≤ 9223372036854775807) :
    (⟨skip, size⟩ : Window).of rows = (⟨skip, take⟩ : Window).of rows := by
  obtain rfl | ⟨rfl, rfl⟩ := hsize
  · rfl
  · have hlength : (rows.drop skip).length ≤ 9223372036854775807 := by
      rw [List.length_drop]
      exact Nat.le_trans (Nat.sub_le _ _) hrows
    exact List.take_of_length_le hlength

/-- The clauses of a statement that is made of the parts of a query make its page. -/
lemma HasParts.pages (hplain : q.countsPage = false) (h : HasParts d q output filters order) :
    ((assembled d q output filters order).clauses d).Pages q := by
  obtain ⟨-, -, keys, hkeys, horder⟩ := h
  obtain ⟨hskip, hdefault⟩ := Query.sortKeys_ne_nil hplain hkeys
  have hnil : order ≠ [] ↔ keys ≠ [] := by
    refine not_congr ⟨?_, ?_⟩
    · rintro rfl
      exact eq_nil_of_mapM_ok horder
    · rintro rfl
      cases horder
      rfl
  have hwindow := (window_of_limits (s := assembled d q output filters order) rfl rfl).2
  have hsize := pageSize_cases d q.effectiveTake q.skip
  have hclauses : ((assembled d q output filters order).clauses d).window =
      Window.ofPage d q.effectiveTake q.skip := hwindow
  refine ⟨?_, ?_, ?_, ?_, ?_⟩
  · rw [hclauses]
    rfl
  · rw [hclauses]
    exact hsize
  · intro α rows hrows
    rw [hclauses]
    exact Window.of_pageSize hsize hrows
  · intro hsome
    obtain ⟨t, ts, rfl⟩ := List.exists_cons_of_ne_nil (hnil.mpr (hskip hsome))
    exact ⟨t, ts, rfl⟩
  · intro hown
    rw [← hdefault hown, ← hnil]
    cases order <;> simp [Select.clauses, assembled, orderInside]

/-- The page of a query that counts is that of the query as a sequence. -/
lemma Clauses.Pages.of_closed (hcount : q.terminal.isCount = true)
    (h : c.Pages (q.closed .sequence)) : c.Pages q := by
  have htake : (q.closed .sequence).effectiveTake = q.effectiveTake := by
    have hnone : (q.closed .sequence).terminal.implicitTake = q.terminal.implicitTake :=
      (Terminal.implicitTake_of_isCount hcount).symm
    have htake : (q.closed .sequence).take = q.take := rfl
    rw [Query.effectiveTake, Query.effectiveTake, hnone, htake]
  have hwindow : (q.closed .sequence).window = q.window := by
    rw [Query.window, Query.window, htake]
    rfl
  have hlast : (q.closed .sequence).terminal.isLast = q.terminal.isLast :=
    (Terminal.isLast_of_unsorted (.inl hcount)).symm
  obtain ⟨hoffset, hlimit, hrows, hordered, horder⟩ := h
  rw [htake] at hlimit
  rw [hlast] at horder
  exact ⟨hoffset, hlimit, fun rows => hwindow ▸ hrows rows, hordered, horder⟩

/-- The statement of a query that is compiled has its row limits in the words of the dialect.  It
makes the page of the query, or if it counts a page or distinct rows, then without a condition, sort
keys or a row limit of its own it counts those of a statement in parentheses, which makes the
page. -/
theorem compile_pages {st : Statement} (h : q.compile d = .ok st) :
    ∃ ps c, st.phrases? d = some ps ∧ clauses? ps = some c ∧ LimitsOf d ps ∧
      (q.countsPage = false → c.Pages q) ∧
      (q.countsPage = true → countsRows c.output = true ∧ c.filter = none ∧ c.order = none ∧
        c.window = ⟨0, none⟩ ∧
        ∃ inner page, c.source = [.group inner, .word "AS", .column none "t"] ∧
          clauses? inner = some page ∧ LimitsOf d inner ∧ page.Pages q) := by
  obtain ⟨s, hs, hsingle, hread⟩ := Query.tree_of_compile h
  cases hpage : q.countsPage with
  | false =>
    obtain ⟨output, filters, order, hparts, rfl⟩ := (Query.tree_eq_ok hpage).mp hs
    have hlimits := (window_of_limits (s := assembled d q output filters order) rfl rfl).1
    exact ⟨_, _, hread, clauses?_phrases hsingle hlimits, limitsOf_phrases hsingle rfl rfl,
      fun _ => hparts.pages hpage, nofun⟩
  | true =>
    obtain ⟨output, filters, order, hparts, rfl⟩ := (Query.tree_eq_counting hpage).mp hs
    have hcount : q.terminal.isCount = true := (Bool.and_eq_true_iff.mp hpage).1
    -- What is counted is the tree of the sequence, which is compiled as well.
    obtain ⟨-, -, hfilters, -⟩ :=
      Query.compile_of_tree ((Query.tree_eq_ok (q := q.closed .sequence) rfl).mpr
        ⟨output, filters, order, hparts, rfl⟩)
    have hlimits := (window_of_limits (d := d)
      (s := assembled d (q.closed .sequence) output filters order) rfl rfl).1
    refine ⟨_, _, hread, clauses?_phrases hsingle (.inl rfl), ?_, nofun, fun _ =>
      ⟨?_, rfl, rfl, rfl, _, _, rfl, clauses?_phrases hfilters hlimits,
        limitsOf_phrases hfilters rfl rfl, (hparts.pages rfl).of_closed hcount⟩⟩
    · have htop : none = topOf d none none := by cases d <;> rfl
      have hlimit : .none = Limit.of d none none := by cases d <;> rfl
      exact limitsOf_phrases hsingle htop hlimit
    · cases countsBig d q.terminal <;> rfl

end Pages

/-- The query for the number of coins on a page without sort keys. -/
def coinPage : Query :=
  { Query.all coinTable ⟨0⟩ with
    skip := some 2
    terminal := .count }

/-- The page of coins that are counted, in a dialect that demands a number of rows. -/
theorem compile_pages_coins :
    ∃ st, coinPage.compile .postgreSql = .ok st ∧
      ∃ ps c, st.phrases? .postgreSql = some ps ∧ clauses? ps = some c ∧
        LimitsOf .postgreSql ps ∧ countsRows c.output = true ∧ c.filter = none ∧
          c.order = none ∧ c.window = ⟨0, none⟩ ∧
          ∃ inner page, c.source = [.group inner, .word "AS", .column none "t"] ∧
            clauses? inner = some page ∧ LimitsOf .postgreSql inner ∧ page.Pages coinPage := by
  obtain ⟨st, h⟩ : ∃ st, coinPage.compile .postgreSql = .ok st := Query.exists_compile rfl
  obtain ⟨ps, c, hread, hclauses, hlimits, -, hcounts⟩ := compile_pages h
  exact ⟨st, h, ps, c, hread, hclauses, hlimits, hcounts rfl⟩

end Sql

end TableQuery
