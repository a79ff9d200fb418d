import TableQuery.Proofs.Text.Piece

/-!
# Outside quotation

What stands outside quotation in a text shows in its tokens.  A semicolon is a token of its own, and
two operator characters next to each other belong to one sign (`outside_of_scan?`).  So a text whose
tokens are harmless neither ends a statement nor begins a comment outside quotation, whatever stands
inside quotation.
-/

namespace TableQuery.Sql

/-- Whether two characters stand next to each other in a text. -/
def hasPair (x y : Char) : List Char → Bool
  | a :: b :: cs => (a == x && b == y) || hasPair x y (b :: cs)
  | _ => false

/-- Whether a token is a quoted identifier or a literal. -/
def Token.isQuoted : Token → Bool
  | .name _ | .literal _ => true
  | _ => false

/-- Whether a token is unquoted, does not end a statement and does not begin a comment. -/
def Token.isHarmless : Token → Bool
  | .word _ => true
  | .symbol s => !hasPair '-' '-' s.toList && !hasPair '/' '*' s.toList
  | .mark c => c != ';'
  | .name _ | .literal _ => false

/-- Whether a scan stands inside a quoted identifier or a literal. -/
def Scan.isInside : Scan → Bool
  | name _ | literal _ => true
  | _ => false

section Pairs

variable {x y : Char}

/-- Two characters that stand next to each other in a text do so in a longer one. -/
lemma hasPair_append (us vs : List Char) : hasPair x y (us ++ x :: y :: vs) = true := by
  induction us with
  | nil => simp [hasPair]
  | cons u us ih =>
    cases us with
    | nil =>
      rw [List.cons_append, List.nil_append, hasPair]
      rw [List.nil_append] at ih
      rw [ih, Bool.or_true]
    | cons u' us =>
      rw [List.cons_append, List.cons_append, hasPair]
      rw [List.cons_append] at ih
      rw [ih, Bool.or_true]

end Pairs

section Scanning

variable {d : Dialect} {st : Scan} {cs : List Char} {ts : List Token}

/-- The tokens after a character are among those of the text that begins with it, with those that
are complete at the character. -/
lemma scan?_cons {c : Char} (h : scan? d st (c :: cs) = some ts) :
    ∃ us, scan? d (st.step d c).2 cs = some us ∧ ts = (st.step d c).1 ++ us := by
  simp only [scan?, Scan.steps] at h ⊢
  cases hf : (Scan.steps d cs (st.step d c).2).2.finish? with
  | none =>
    rw [hf] at h
    cases h
  | some vs =>
    rw [hf] at h
    cases h
    exact ⟨_, rfl, by simp⟩

/-- The tokens of the rest of a text are among those of the text. -/
lemma scan?_append {us vs : List Char} (h : scan? d st (us ++ vs) = some ts) :
    ∃ rest, scan? d (Scan.steps d us st).2 vs = some rest ∧ ∀ t ∈ rest, t ∈ ts := by
  induction us generalizing st ts with
  | nil => exact ⟨ts, h, fun t ht => ht⟩
  | cons c us ih =>
    obtain ⟨ts', hts', rfl⟩ := scan?_cons h
    obtain ⟨rest, hrest, hmem⟩ := ih hts'
    exact ⟨rest, hrest, fun t ht => List.mem_append_right _ (hmem t ht)⟩

/-- A sign that has begun is a token, perhaps with further characters. -/
lemma symbol_mem_of_scan? {ws : List Char} (h : scan? d (.symbol ws) cs = some ts) :
    ∃ more, .symbol (String.ofList (ws ++ more)) ∈ ts := by
  induction cs generalizing ws ts with
  | nil =>
    cases h
    exact ⟨[], by simp [Scan.steps, Scan.pending]⟩
  | cons c cs ih =>
    obtain ⟨us, hus, rfl⟩ := scan?_cons h
    cases hc : isSymbolChar c with
    | true =>
      have hstep : (Scan.symbol ws).step d c = ([], .symbol (ws ++ [c])) := by
        simp [Scan.step, Scan.continued?, hc]
      rw [hstep] at hus ⊢
      obtain ⟨more, hmore⟩ := ih hus
      exact ⟨c :: more, by simpa using hmore⟩
    | false =>
      refine ⟨[], List.mem_append_left _ ?_⟩
      simp [Scan.step, Scan.continued?, hc, Scan.pending]

/-- Outside quotation an operator character begins a sign or lengthens one. -/
lemma step_symbolChar {c : Char} (hst : st.isInside = false) (hc : c = '-' ∨ c = '/') :
    ∃ ws, (st.step d c).2 = .symbol (ws ++ [c]) := by
  obtain rfl | rfl := hc
  all_goals
    cases st with
    | symbol ws => exact ⟨ws, by cases d <;> rfl⟩
    | name ws | literal ws => cases hst
    | _ => exact ⟨[], by cases d <;> rfl⟩

/-- Outside quotation two operator characters next to each other belong to one sign. -/
lemma pair_mem_of_scan? {c c' : Char} (hst : st.isInside = false) (hc : c = '-' ∨ c = '/')
    (hc' : isSymbolChar c' = true) (h : scan? d st (c :: c' :: cs) = some ts) :
    ∃ s, .symbol s ∈ ts ∧ hasPair c c' s.toList = true := by
  obtain ⟨us, hus, rfl⟩ := scan?_cons h
  obtain ⟨ws, hws⟩ := step_symbolChar (d := d) hst hc
  rw [hws] at hus
  obtain ⟨vs, hvs, rfl⟩ := scan?_cons hus
  have hstep : (Scan.symbol (ws ++ [c])).step d c' = ([], .symbol (ws ++ [c] ++ [c'])) := by
    simp [Scan.step, Scan.continued?, hc']
  rw [hstep] at hvs ⊢
  obtain ⟨more, hmore⟩ := symbol_mem_of_scan? hvs
  refine ⟨_, List.mem_append_right _ hmore, ?_⟩
  rw [String.toList_ofList, List.append_assoc, List.append_assoc]
  exact hasPair_append ws more

/-- Outside quotation a semicolon is a token. -/
lemma semicolon_mem_of_scan? (hst : st.isInside = false)
    (h : scan? d st (';' :: cs) = some ts) : .mark ';' ∈ ts := by
  obtain ⟨us, -, rfl⟩ := scan?_cons h
  refine List.mem_append_left _ ?_
  cases st with
  | name ws | literal ws => cases hst
  | _ => cases d <;> simp [Scan.step, Scan.continued?, Scan.start, isWordChar, isSymbolChar,
      Dialect.quotes]

/-- What ends a statement or begins a comment. -/
def terminators : List String := [";", "--", "/*"]

/-- In a text whose tokens are quoted or harmless nothing ends a statement or begins a comment
outside quotation. -/
theorem outside_of_scan? {us vs : List Char} (h : scan? d .gap (us ++ vs) = some ts)
    (hts : ∀ t ∈ ts, t.isQuoted = true ∨ t.isHarmless = true)
    (hplace : (placeAfter d us).isInside = false) : ∀ s ∈ terminators, ¬s.toList <+: vs := by
  obtain ⟨rest, hrest, hmem⟩ := scan?_append h
  -- The two characters would belong to one sign, and that token would not be harmless.
  have hpair : ∀ c c' : Char, (c = '-' ∨ c = '/') → isSymbolChar c' = true →
      (∀ s : String, hasPair c c' s.toList = true → (Token.symbol s).isHarmless = false) →
        ¬[c, c'] <+: vs := by
    rintro c c' hc hc' hharm ⟨ws, rfl⟩
    obtain ⟨s, hs, hp⟩ := pair_mem_of_scan? hplace hc hc' hrest
    have hsafe := hts _ (hmem _ hs)
    rw [hharm s hp] at hsafe
    simp [Token.isQuoted] at hsafe
  intro s hs
  simp only [terminators, List.mem_cons, List.not_mem_nil, or_false] at hs
  obtain rfl | rfl | rfl := hs
  · rintro ⟨ws, rfl⟩
    have hsafe := hts _ (hmem _ (semicolon_mem_of_scan? hplace hrest))
    simp [Token.isQuoted, Token.isHarmless] at hsafe
  · exact hpair '-' '-' (.inl rfl) rfl fun s hs => by simp [Token.isHarmless, hs]
  · exact hpair '/' '*' (.inr rfl) rfl fun s hs => by simp [Token.isHarmless, hs]

end Scanning

end TableQuery.Sql
