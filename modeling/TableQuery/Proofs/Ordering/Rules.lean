import TableQuery.Proofs.Ordering.Nesting
import TableQuery.Proofs.Rows.Paging

/-!
# The rules of ordering

SQL Server allows `ORDER BY` inside a subquery or a derived table only if the same `SELECT` has
`TOP` or `OFFSET`, and wants `FETCH NEXT` to be followed by a number of at least one.  These are
rules for texts (`ObeysOrdering`), about the words of each statement outside the parentheses in it.
The text of a tree obeys them just if its sort keys and row limits do (`Select.obeysOrdering_iff`).
-/

namespace TableQuery.Sql

/-- Whether phrases are sorted only with a row limit. -/
def SortsLimited (ps : List Phrase) : Prop :=
  .word "ORDER" ∈ ps → .word "TOP" ∈ ps ∨ .word "OFFSET" ∈ ps

/-- Whether phrases fetch one row or more, where they fetch rows. -/
def FetchesSome (ps : List Phrase) : Prop :=
  ∀ p n, [.word "FETCH", .word "NEXT", p] <:+: ps → p.natural? = some n → 1 ≤ n

/-- Whether the phrases of a statement obey the rules of ordering, and so does every statement
inside. -/
def ObeysOrdering (ps : List Phrase) : Prop :=
  FetchesSome ps ∧ ∀ inner ∈ nestedStatements ps, SortsLimited inner ∧ FetchesSome inner

namespace Select

/-- Whether a statement is sorted only with a row limit. -/
def SortsLimited (s : Select) : Prop :=
  s.order ≠ [] → s.top ≠ none ∨ ∃ skipped fetched, s.limit = .offsetFetch skipped fetched

/-- Whether a statement fetches one row or more, where it fetches rows. -/
def FetchesSome (s : Select) : Prop := ∀ skipped, s.limit ≠ .offsetFetch skipped (some 0)

/-- Whether a statement may stand inside another. -/
def Lawful (s : Select) : Prop := s.SortsLimited ∧ s.FetchesSome

/-- Whether each condition of a statement is a single phrase. -/
def IsSingle (s : Select) : Prop := ∀ c ∈ s.filters, c.isSingle = true

end Select

section Single

variable {ok : List From → ColumnName → Prop}

/-- The conditions of a filter are single phrases. -/
lemma filtersWritten_single {chain : List From} {cs : List Cond}
    (h : filtersWritten ok chain cs) : ∀ c ∈ cs, c.isSingle = true := by
  induction cs with
  | nil => exact nofun
  | cons c cs ih => exact List.forall_mem_cons.mpr ⟨h.1.1, ih h.2⟩

/-- The conditions of a statement are single phrases. -/
lemma Select.isSingle_of_written {chain : List From} {s : Select} (h : s.Written ok chain) :
    s.IsSingle := by
  cases s
  exact filtersWritten_single h.2.2.1

mutual

/-- The statements in a value have filters of single phrases. -/
theorem Scalar.nested_single {chain : List From} :
    (x : Scalar) → x.Written ok chain → ∀ s ∈ x.nested, s.IsSingle
  | .null, _ | .number _, _ | .truth _, _ | .text _, _ | .param _, _ | .column _, _ | .dateFirst, _
  | .localTimestamp, _ => nofun
  | .call _ args, h => scalars_nested_single args h
  | .cast x _, h | .extract _ x, h | .extractWeekday x, h | .datePart _ x, h
  | .datePartWeekday x, h | .interval _ x, h | .paren x, h => Scalar.nested_single x h
  | .negate x, h | .complement x, h => Scalar.nested_single x h.2
  | .atTimeZone x _, h => Scalar.nested_single x h.1.2
  | .dateAdd _ n x, h =>
    List.forall_mem_append.mpr ⟨Scalar.nested_single n h.1, Scalar.nested_single x h.2⟩
  | .operator _ l r, h =>
    List.forall_mem_append.mpr ⟨Scalar.nested_single l h.2.1.2, Scalar.nested_single r h.2.2.2⟩
  | .concat l r, h =>
    List.forall_mem_append.mpr ⟨Scalar.nested_single l h.1.2, Scalar.nested_single r h.2.2⟩
  | .case test yes no, h =>
    List.forall_mem_append.mpr ⟨Cond.nested_single test h.1.2,
      List.forall_mem_append.mpr ⟨Scalar.nested_single yes h.2.1, Scalar.nested_single no h.2.2⟩⟩

/-- The statements in several values have filters of single phrases. -/
theorem scalars_nested_single {chain : List From} :
    (xs : List Scalar) → scalarsWritten ok chain xs → ∀ s ∈ scalarsNested xs, s.IsSingle
  | [], _ => nofun
  | x :: xs, h =>
    List.forall_mem_append.mpr ⟨Scalar.nested_single x h.1, scalars_nested_single xs h.2⟩

/-- The statements in a condition have filters of single phrases. -/
theorem Cond.nested_single {chain : List From} :
    (c : Cond) → c.Written ok chain → ∀ s ∈ c.nested, s.IsSingle
  | .compare _ l r, h =>
    List.forall_mem_append.mpr ⟨Scalar.nested_single l h.2.1.2, Scalar.nested_single r h.2.2.2⟩
  | .like l r _, h =>
    List.forall_mem_append.mpr ⟨Scalar.nested_single l h.1.2, Scalar.nested_single r h.2.2⟩
  | .and l r, h | .or l r, h =>
    List.forall_mem_append.mpr ⟨Cond.nested_single l h.1.2, Cond.nested_single r h.2.2⟩
  | .not c, h => Cond.nested_single c h.2
  | .paren c, h => Cond.nested_single c h
  | .isNull x, h | .isNotNull x, h => Scalar.nested_single x h.2
  | .inList x members, h =>
    List.forall_mem_append.mpr ⟨Scalar.nested_single x h.1.2, scalars_nested_single members h.2⟩
  | .inSelect x s, h =>
    List.forall_mem_append.mpr ⟨Scalar.nested_single x h.1.2,
      List.forall_mem_cons.mpr ⟨Select.isSingle_of_written h.2, Select.nested_single s h.2⟩⟩
  | .exists s, h =>
    List.forall_mem_cons.mpr ⟨Select.isSingle_of_written h, Select.nested_single s h⟩

/-- The statements in several conditions have filters of single phrases. -/
theorem conds_nested_single {chain : List From} :
    (cs : List Cond) → filtersWritten ok chain cs → ∀ s ∈ condsNested cs, s.IsSingle
  | [], _ => nofun
  | c :: cs, h =>
    List.forall_mem_append.mpr ⟨Cond.nested_single c h.1.2, conds_nested_single cs h.2⟩

/-- The statements in a source have filters of single phrases. -/
theorem Source.nested_single {chain : List From} :
    (s : Source) → s.Written ok chain → ∀ t ∈ s.nested, t.IsSingle
  | .table .., _ => nofun
  | .derived s _, h =>
    List.forall_mem_cons.mpr ⟨Select.isSingle_of_written h, Select.nested_single s h⟩

/-- In every statement inside one that is written as it should be, each condition is a single
phrase. -/
theorem Select.nested_single {chain : List From} :
    (s : Select) → s.Written ok chain → ∀ t ∈ s.nested, t.IsSingle
  | ⟨_, _, _, source, filters, _, _⟩, h =>
    List.forall_mem_append.mpr
      ⟨Source.nested_single source h.2.1, conds_nested_single filters h.2.2.1⟩

end

end Single

section Words

variable {d : Dialect} {s : Select} {w : String}

/-- The phrases of a statement before the row limit at its end. -/
def Select.bodyPhrases (d : Dialect) (s : Select) : List Phrase :=
  headPhrases s.distinct s.top s.output ++ .word "FROM" ::
    (s.source.phrases d ++ (filterPhrases d s.filters ++ orderPhrases s.order))

/-- A statement is its body and its window. -/
lemma Select.phrases_eq_body (d : Dialect) (s : Select) :
    s.phrases d = s.bodyPhrases d ++ s.limit.phrases := by
  simp [Select.phrases_eq, Select.bodyPhrases]

/-- The words of a statement that are about its order and its row limits. -/
def orderWords : List String := ["ORDER", "TOP", "OFFSET", "FETCH"]

/-- Words about the order are not written inside a clause. -/
lemma notMem_inner {ps : List Phrase} (hw : w ∈ orderWords) (h : IsInner ps) : .word w ∉ ps := by
  have hapart : ∀ v ∈ orderWords, v ∉ innerWords := by decide
  exact fun hmem => hapart w hw (h.word_mem hmem)

/-- Before the row limit at the end, a statement has `TOP` just if it has a row limit there, and
`ORDER` just if it has sort keys, and no other of these words. -/
lemma Select.mem_bodyPhrases (hs : s.IsSingle) (hw : w ∈ orderWords) :
    .word w ∈ s.bodyPhrases d ↔ (w = "TOP" ∧ s.top ≠ none) ∨ (w = "ORDER" ∧ s.order ≠ []) := by
  have hapart : ∀ v ∈ orderWords, v ∉ ["SELECT", "DISTINCT", "FROM", "WHERE"] := by decide
  have hplain := hapart w hw
  simp only [List.mem_cons, List.not_mem_nil, or_false, not_or] at hplain
  obtain ⟨hselect, hdistinct, hfrom, hwhere⟩ := hplain
  have houtput : .word w ∉ s.output.phrases := notMem_inner hw (isInner_output s.output)
  have hsource : .word w ∉ s.source.phrases d := notMem_inner hw (isInner_source s.source)
  have hfilters : .word w ∉ filterPhrases d s.filters := by
    cases hfilters : s.filters with
    | nil => exact nofun
    | cons c cs =>
      have hinner : IsInner (c.phrases d ++ furtherPhrases d cs) :=
        isInner_filters fun b hb => hs b (hfilters ▸ hb)
      rw [filterPhrases, List.mem_cons, not_or]
      exact ⟨fun heq => hwhere (Phrase.word.inj heq), notMem_inner hw hinner⟩
  have horder : .word w ∈ orderPhrases s.order ↔ w = "ORDER" ∧ s.order ≠ [] := by
    unfold orderPhrases
    cases horder : s.order with
    | nil => simp
    | cons t ts =>
      have hinner := notMem_inner hw (isInner_order (t :: ts))
      have hword : Phrase.word w = .word "ORDER" ↔ w = "ORDER" := by simp
      rw [List.isEmpty_cons, if_neg Bool.false_ne_true, List.mem_cons, or_iff_left hinner, hword]
      exact (and_iff_left (List.cons_ne_nil t ts)).symm
  have hhead : .word w ∈ headPhrases s.distinct s.top s.output ↔ w = "TOP" ∧ s.top ≠ none := by
    cases htop : s.top <;> cases s.distinct <;> simp [headPhrases, hselect, hdistinct, houtput]
  rw [bodyPhrases, List.mem_append, List.mem_cons, List.mem_append, List.mem_append, hhead, horder]
  simp [hsource, hfilters, hfrom]

/-- The words of sorting are no numerals. -/
lemma ne_numeral (hw : w ∈ orderWords) (n : Nat) : w ≠ n.repr := by
  have hapart : ∀ v ∈ orderWords, (Phrase.word v).natural? = none := by decide
  rintro rfl
  cases (hapart _ hw).symm.trans (natural?_word n)

/-- A window has the words of an offset just if it has one. -/
lemma Limit.mem_phrases (l : Limit) (hw : w ∈ orderWords) :
    .word w ∈ l.phrases ↔
      (w = "OFFSET" ∧ ∃ skipped fetched, l = .offsetFetch skipped fetched) ∨
        w = "FETCH" ∧ ∃ skipped n, l = .offsetFetch skipped (some n) := by
  have hapart : ∀ v ∈ orderWords, v ∉ ["limit", "offset", "ROWS", "NEXT", "ONLY"] := by decide
  have hplain := hapart w hw
  simp only [List.mem_cons, List.not_mem_nil, or_false, not_or] at hplain
  have hnumeral := ne_numeral hw
  cases l with
  | none => simp [Limit.phrases]
  | limitOffset count skipped =>
    cases count <;> cases skipped <;> simp [Limit.phrases, integerPhrases, hplain, hnumeral]
  | offsetFetch skipped fetched =>
    cases fetched <;> simp [Limit.phrases, hplain, hnumeral]

/-- A statement is sorted only with a row limit just if its text is. -/
lemma Select.sortsLimited_iff (hs : s.IsSingle) :
    Sql.SortsLimited (s.phrases d) ↔ s.SortsLimited := by
  have hmem : ∀ v ∈ orderWords, .word v ∈ s.phrases d ↔
      ((v = "TOP" ∧ s.top ≠ none) ∨ (v = "ORDER" ∧ s.order ≠ [])) ∨
      (v = "OFFSET" ∧ ∃ skipped fetched, s.limit = .offsetFetch skipped fetched) ∨
        v = "FETCH" ∧ ∃ skipped n, s.limit = .offsetFetch skipped (some n) := by
    intro v hv
    rw [Select.phrases_eq_body, List.mem_append, Select.mem_bodyPhrases hs hv,
      Limit.mem_phrases s.limit hv]
  rw [Sql.SortsLimited, hmem "ORDER" (by decide), hmem "TOP" (by decide),
    hmem "OFFSET" (by decide)]
  simp [SortsLimited]

/-- What starts with a phrase that does not occur at first stands in the rest. -/
lemma infix_of_notMem {p : Phrase} {ps qs rest : List Phrase} (hp : p ∉ qs)
    (h : p :: ps <:+: qs ++ rest) : p :: ps <:+: rest := by
  induction qs with
  | nil => exact h
  | cons q qs ih =>
    rw [List.mem_cons, not_or] at hp
    rw [List.cons_append, List.infix_cons_iff] at h
    rcases h with hprefix | hinfix
    · exact absurd (List.cons_prefix_cons.mp hprefix).1 hp.1
    · exact ih hp.2 hinfix

/-- A statement fetches one row or more just if its text does. -/
lemma Select.fetchesSome_iff (hs : s.IsSingle) :
    Sql.FetchesSome (s.phrases d) ↔ s.FetchesSome := by
  have hfetch : .word "FETCH" ∉ s.bodyPhrases d := by
    rw [Select.mem_bodyPhrases hs (by decide)]
    simp
  constructor
  case mp =>
    intro h skipped hlimit
    have hinfix : [.word "FETCH", .word "NEXT", .word (toString 0)] <:+: s.phrases d := by
      rw [Select.phrases_eq_body, hlimit]
      exact ⟨s.bodyPhrases d ++ [.word "OFFSET", .word (toString skipped), .word "ROWS"],
        [.word "ROWS", .word "ONLY"], by simp [Limit.phrases]⟩
    have hone := h _ 0 hinfix (natural?_word 0)
    omega
  case mpr =>
    intro h p n hinfix hn
    -- Words before the row limit are not `FETCH`, so the one found is that of the limit.
    rw [Select.phrases_eq_body] at hinfix
    have hend := infix_of_notMem hfetch hinfix
    have hmem : .word "FETCH" ∈ s.limit.phrases := hend.subset List.mem_cons_self
    rw [Limit.mem_phrases s.limit (by decide)] at hmem
    rcases hmem with ⟨heq, -⟩ | ⟨-, skipped, m, hlimit⟩
    · exact absurd heq (by decide)
    have hskipped : .word "FETCH" ∉
        [.word "OFFSET", .word (toString skipped), Phrase.word "ROWS"] := by
      simp [ne_numeral (w := "FETCH") (by decide) skipped]
    have hend : [.word "FETCH", .word "NEXT", p] <:+:
        [.word "FETCH", .word "NEXT", .word (toString m), .word "ROWS", .word "ONLY"] := by
      rw [hlimit] at hend
      exact infix_of_notMem hskipped hend
    rcases List.infix_cons_iff.mp hend with hprefix | hinfix
    · obtain rfl : p = .word (toString m) := by simpa using hprefix
      cases (natural?_word m).symm.trans hn
      refine Nat.one_le_iff_ne_zero.mpr ?_
      rintro rfl
      exact h skipped hlimit
    · have hrest := hinfix.subset List.mem_cons_self
      simp [ne_numeral (w := "FETCH") (by decide) m] at hrest

/-- The text of a statement obeys the rules of ordering just if the statement fetches one row or
more and each statement inside may stand there. -/
theorem Select.obeysOrdering_iff {ok : List From → ColumnName → Prop} {chain : List From}
    (h : s.Written ok chain) :
    ObeysOrdering (s.phrases d) ↔ s.FetchesSome ∧ ∀ t ∈ s.nested, t.Lawful := by
  have hnested := Select.nested_single s h
  rw [ObeysOrdering, Select.fetchesSome_iff (Select.isSingle_of_written h), Select.encloses s,
    List.forall_mem_map]
  refine and_congr_right fun _ => forall₂_congr fun t ht => ?_
  rw [Select.sortsLimited_iff (hnested t ht), Select.fetchesSome_iff (hnested t ht)]
  rfl

end Words

end TableQuery.Sql
