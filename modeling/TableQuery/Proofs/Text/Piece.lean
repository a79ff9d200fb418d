import Mathlib.Tactic.Tauto
import TableQuery.Proofs.Number.Decimal
import TableQuery.Proofs.Text.Renumbering
import TableQuery.Sql.Render

/-!
# Pieces and their tokens

The text of a sequence of pieces is scanned piece by piece: where no piece runs into the next, the
tokens of the text are those of the pieces, one after another (`Scans`).  A word runs into what
follows it unless it ends in a gap or what follows begins with a character that belongs to no token
(`isBreak`).

The marks of parameters among the tokens are told apart by their numbers.  If the numbers begin
later, the text is the same but for the marks (`Scans.renumber`).
-/

namespace TableQuery.Sql

/-- Whether a character ends any token before it that is complete. -/
def isBreak (c : Char) : Bool := [' ', '(', ')', ',', '.'].contains c

/-- Whether a text begins with a character that ends the token before it, or is empty. -/
def Opens (cs : List Char) : Prop := ∀ c ∈ cs.head?, isBreak c = true

/-- The tokens of a fixed word. -/
def wordTokens (d : Dialect) (s : String) : List Token := (tokens? d s).getD []

/-- The tokens of a piece, where `number` is that of the next parameter. -/
def Piece.tokens (d : Dialect) (number : Nat) : Piece → List Token
  | .word s => wordTokens d s
  | .identifier name => [.name name]
  | .literal s => [.literal s]
  | .param _ => [.word (d.placeholder number)]

/-- The tokens of several pieces. -/
def tokensOf (d : Dialect) (number : Nat) : List Piece → List Token
  | [] => []
  | p :: ps => p.tokens d number ++ tokensOf d (if p.value?.isSome then number + 1 else number) ps

/-- The values that several pieces bind, in order. -/
def boundValues (ps : List Piece) : List Value := ps.filterMap Piece.value?

section Sequences

variable {d : Dialect}

/-- No pieces bind nothing. -/
@[simp] lemma boundValues_nil : boundValues [] = [] := rfl

/-- Pieces bind what those before bind and then what those after bind. -/
@[simp] lemma boundValues_append (ps qs : List Piece) :
    boundValues (ps ++ qs) = boundValues ps ++ boundValues qs := List.filterMap_append ..

/-- A word binds nothing. -/
@[simp] lemma boundValues_word (s : String) (ps : List Piece) :
    boundValues (.word s :: ps) = boundValues ps := rfl

/-- A name binds nothing. -/
@[simp] lemma boundValues_identifier (s : String) (ps : List Piece) :
    boundValues (.identifier s :: ps) = boundValues ps := rfl

/-- A literal text binds nothing. -/
@[simp] lemma boundValues_literal (s : String) (ps : List Piece) :
    boundValues (.literal s :: ps) = boundValues ps := rfl

/-- A parameter binds its value. -/
@[simp] lemma boundValues_param (v : Value) (ps : List Piece) :
    boundValues (.param v :: ps) = v :: boundValues ps := rfl

/-- The values of a first piece are counted before those of the others. -/
lemma length_boundValues_cons (p : Piece) (ps : List Piece) :
    (boundValues (p :: ps)).length = (boundValues [p]).length + (boundValues ps).length := by
  rw [← List.singleton_append, boundValues_append, List.length_append]

/-- The number of the next parameter is one more behind a parameter. -/
lemma next_number (p : Piece) (n : Nat) :
    (if p.value?.isSome then n + 1 else n) = n + (boundValues [p]).length := by
  cases p <;> rfl

/-- The text of pieces after others, whose parameters are numbered on. -/
lemma piecesText_append (n : Nat) (ps qs : List Piece) :
    piecesText d n (ps ++ qs) =
      piecesText d n ps ++ piecesText d (n + (boundValues ps).length) qs := by
  induction ps generalizing n with
  | nil => simp [piecesText]
  | cons p ps ih =>
    rw [List.cons_append, piecesText, piecesText, next_number, ih, length_boundValues_cons p ps,
      String.append_assoc, Nat.add_assoc]

/-- The tokens of pieces after others, whose parameters are numbered on. -/
lemma tokensOf_append (n : Nat) (ps qs : List Piece) :
    tokensOf d n (ps ++ qs) = tokensOf d n ps ++ tokensOf d (n + (boundValues ps).length) qs := by
  induction ps generalizing n with
  | nil => simp [tokensOf]
  | cons p ps ih =>
    rw [List.cons_append, tokensOf, tokensOf, next_number, ih, length_boundValues_cons p ps,
      List.append_assoc, Nat.add_assoc]

/-- The text of a word before pieces. -/
@[simp] lemma piecesText_word (n : Nat) (s : String) (ps : List Piece) :
    piecesText d n (.word s :: ps) = s ++ piecesText d n ps := rfl

/-- No pieces have no tokens. -/
@[simp] lemma tokensOf_nil (n : Nat) : tokensOf d n [] = [] := rfl

/-- The tokens of a word before pieces. -/
@[simp] lemma tokensOf_word (n : Nat) (s : String) (ps : List Piece) :
    tokensOf d n (.word s :: ps) = wordTokens d s ++ tokensOf d n ps := rfl

end Sequences

/-- The place of a scan after a text that begins in a gap. -/
def placeAfter (d : Dialect) (cs : List Char) : Scan := (Scan.steps d cs .gap).2

/-- Whether a scan stands behind a word or a sign, or in a gap. -/
def Scan.isWhole : Scan → Bool
  | gap | word _ | symbol _ => true
  | _ => false

/-- Whether a scan stands in a gap. -/
def Scan.isGap : Scan → Bool
  | gap => true
  | _ => false

section Words

variable {d : Dialect}

/-- A scan outside a token stops before anything. -/
lemma Scan.stops_gap (rest : List Char) : Scan.gap.Stops d rest := fun _ _ => rfl

/-- A scan at the end of a token stops before what opens. -/
lemma Scan.stops_of_opens {st : Scan} {rest : List Char} (hw : st.isWhole = true)
    (ho : Opens rest) : st.Stops d rest := by
  intro c hc
  have hb := ho c hc
  simp only [isBreak, List.contains_eq_mem, List.mem_cons, List.not_mem_nil, or_false,
    decide_eq_true_eq] at hb
  cases st with
  | gap => rfl
  | word cs => rcases hb with rfl | rfl | rfl | rfl | rfl <;> rfl
  | symbol cs => rcases hb with rfl | rfl | rfl | rfl | rfl <;> rfl
  | name cs => cases hw
  | nameEnd cs => cases hw
  | literal cs => cases hw
  | literalEnd cs => cases hw

/-- The tokens of a word that ends with its last token. -/
lemma wordTokens_eq {s : String} (hw : (placeAfter d s.toList).isWhole = true) :
    wordTokens d s = (Scan.steps d s.toList .gap).1 ++ (placeAfter d s.toList).pending := by
  unfold placeAfter at hw ⊢
  unfold wordTokens tokens? scan?
  cases h : (Scan.steps d s.toList .gap).2 with
  | gap => simp [Scan.finish?]
  | word cs => simp [Scan.finish?]
  | symbol cs => simp [Scan.finish?]
  | name cs => rw [h] at hw; cases hw
  | nameEnd cs => rw [h] at hw; cases hw
  | literal cs => rw [h] at hw; cases hw
  | literalEnd cs => rw [h] at hw; cases hw

/-- A word is read by itself where what follows does not belong to it. -/
lemma scan_word {s : String} {rest : List Char} (hw : (placeAfter d s.toList).isWhole = true)
    (hs : (placeAfter d s.toList).Stops d rest) :
    scan? d .gap (s.toList ++ rest) = (scan? d .gap rest).map (wordTokens d s ++ ·) := by
  have hf : (placeAfter d s.toList).finish? = some (placeAfter d s.toList).pending := by
    revert hw
    cases placeAfter d s.toList <;> simp [Scan.isWhole, Scan.finish?]
  rw [scan_append hf hs, wordTokens_eq hw]
  rfl

/-- A scan of letters and digits is within one word. -/
lemma placeAfter_plain {c : Char} {cs : List Char} (hstart : Scan.start d c = ([], .word [c]))
    (h : ∀ x ∈ cs, isWordChar x = true) :
    Scan.steps d (c :: cs) .gap = ([], .word (c :: cs)) := by
  have hstep : Scan.gap.step d c = ([], .word [c]) := by
    simp [Scan.step, Scan.continued?, Scan.pending, hstart]
  rw [Scan.steps, hstep, Scan.steps_word h]
  rfl

/-- A word of letters and digits is one token. -/
lemma wordTokens_plain {s : String} {c : Char} {cs : List Char} (hs : s.toList = c :: cs)
    (hstart : Scan.start d c = ([], .word [c])) (h : ∀ x ∈ cs, isWordChar x = true) :
    (placeAfter d s.toList).isWhole = true ∧ wordTokens d s = [.word s] := by
  have hsteps := placeAfter_plain hstart h
  have hplace : placeAfter d s.toList = .word (c :: cs) := by rw [hs, placeAfter, hsteps]
  have hwhole : (placeAfter d s.toList).isWhole = true := by rw [hplace]; rfl
  refine ⟨hwhole, ?_⟩
  rw [wordTokens_eq hwhole, hplace, hs, hsteps, ← hs]
  simp [Scan.pending]

end Words

section Numerals

/-- A numeral consists of digits. -/
lemma isDigit_of_mem_toString {n : Nat} {c : Char} (h : c ∈ (toString n).toList) :
    c.isDigit = true := by
  rw [Number.toList_toString] at h
  exact Number.isDigit_of_mem_natText h

/-- A numeral has a digit. -/
lemma toString_ne_nil (n : Nat) : (toString n).toList ≠ [] := by
  rw [Number.toList_toString]
  exact Number.natText_ne_nil

/-- Different numbers have different numerals. -/
lemma toString_injective {m n : Nat} (h : toString m = toString n) : m = n := by
  apply Number.natText_injective
  rw [← Number.toList_toString, h, Number.toList_toString]

/-- A number is found again from its numeral. -/
lemma readNat_toString (n : Nat) : Number.readNat (toString n).toList = some n := by
  rw [Number.toList_toString, Number.readNat_natText]

end Numerals

/-- Whether a text consists of letters, digits and underscores. -/
def isPlainName (s : String) : Bool :=
  !s.toList.isEmpty && s.toList.all fun c => c.isAlphanum || c == '_'

section Names

variable {d : Dialect} {s : String}

/-- A numeral is a plain name. -/
lemma isPlainName_numeral (n : Nat) : isPlainName (toString n) = true := by
  have hne : (toString n).toList.isEmpty = false := by
    rw [List.isEmpty_eq_false_iff]
    exact toString_ne_nil n
  rw [isPlainName, hne, Bool.not_false, Bool.true_and, List.all_eq_true]
  intro c hc
  simp [Char.isAlphanum, isDigit_of_mem_toString hc]

/-- A letter, a digit or an underscore begins a word, and it is no mark. -/
lemma start_nameChar {c : Char} (h : (c.isAlphanum || c == '_') = true) :
    Scan.start d c = ([], .word [c]) ∧ c ≠ d.marker := by
  have hw : isWordChar c = true := by
    simp only [isWordChar, Bool.or_eq_true] at h ⊢
    tauto
  have hne : ∀ x : Char, (x.isAlphanum || x == '_') = false → c ≠ x := by
    rintro x hx rfl
    rw [hx] at h
    cases h
  have hq : c ≠ d.quotes.1 := hne _ (by cases d <;> rfl)
  have ha : c ≠ '\'' := hne _ rfl
  exact ⟨by simp [Scan.start, hq, ha, hw], hne _ (by cases d <;> rfl)⟩

/-- A name begins with a letter, a digit or an underscore, and the rest of it belongs to a word. -/
lemma chars_of_isPlainName (h : isPlainName s = true) :
    ∃ c cs, s.toList = c :: cs ∧ (c.isAlphanum || c == '_') = true ∧
      ∀ x ∈ cs, isWordChar x = true := by
  simp only [isPlainName, Bool.and_eq_true, Bool.not_eq_true', List.isEmpty_eq_false_iff,
    List.all_eq_true] at h
  obtain ⟨hne, hall⟩ := h
  obtain ⟨c, cs, hcs⟩ := List.exists_cons_of_ne_nil hne
  rw [hcs] at hall
  refine ⟨c, cs, hcs, hall c List.mem_cons_self, fun x hx => ?_⟩
  have hx := hall x (List.mem_cons_of_mem c hx)
  simp only [isWordChar, Bool.or_eq_true] at hx ⊢
  tauto

/-- A plain name is one token, and no placeholder. -/
lemma wordTokens_name (h : isPlainName s = true) :
    (placeAfter d s.toList).isWhole = true ∧ wordTokens d s = [.word s] ∧
      isMarker d s = false := by
  obtain ⟨c, cs, hcs, hc, hchars⟩ := chars_of_isPlainName h
  obtain ⟨hstart, hc⟩ := start_nameChar (d := d) hc
  obtain ⟨hwhole, htokens⟩ := wordTokens_plain hcs hstart hchars
  refine ⟨hwhole, htokens, ?_⟩
  rw [isMarker, hcs]
  cases cs with
  | nil => rfl
  | cons x xs => simp [hc]

/-- A character of names is no symbol. -/
lemma not_isSymbolChar_of_nameChar {c : Char} (h : (c.isAlphanum || c == '_') = true) :
    isSymbolChar c = false := by
  cases hs : isSymbolChar c with
  | false => rfl
  | true =>
    simp only [isSymbolChar, List.contains_eq_mem, decide_eq_true_eq] at hs
    have hall : ['=', '!', '<', '>', '+', '-', '*', '/', '%', '&', '|', '^', '~', '?'].all
        (fun x => !(x.isAlphanum || x == '_')) := rfl
    have hc := List.all_eq_true.mp hall c hs
    rw [h] at hc
    cases hc

/-- A negative number has two tokens. -/
lemma wordTokens_minus (h : isPlainName s = true) :
    (placeAfter d ("-" ++ s).toList).isWhole = true ∧
      wordTokens d ("-" ++ s) = [.symbol "-", .word s] := by
  obtain ⟨c, cs, hcs, hc, hchars⟩ := chars_of_isPlainName h
  obtain ⟨hstart, -⟩ := start_nameChar (d := d) hc
  have hsymbol : isSymbolChar c = false := not_isSymbolChar_of_nameChar hc
  have hminus : Scan.gap.step d '-' = ([], .symbol ['-']) := by cases d <;> rfl
  -- A name cannot continue a symbol, so the sign is a token of its own.
  have hname : (Scan.symbol ['-']).step d c = ([.symbol "-"], .word [c]) := by
    simp [Scan.step, Scan.continued?, hsymbol, Scan.pending, hstart]
  have hsteps : Scan.steps d ("-" ++ s).toList .gap = ([.symbol "-"], .word (c :: cs)) := by
    have hchars' : ("-" ++ s).toList = '-' :: c :: cs := by
      rw [String.toList_append, hcs]
      rfl
    rw [hchars', Scan.steps, hminus, Scan.steps, hname, Scan.steps_word hchars]
    rfl
  have hplace : placeAfter d ("-" ++ s).toList = .word (c :: cs) := by rw [placeAfter, hsteps]
  have hwhole : (placeAfter d ("-" ++ s).toList).isWhole = true := by
    rw [hplace]
    rfl
  refine ⟨hwhole, ?_⟩
  rw [wordTokens_eq hwhole, hplace, hsteps, ← hcs]
  simp [Scan.pending]

end Names

section Quoted

variable {d : Dialect} {rest : List Char}

/-- A character that ends tokens is no quote. -/
lemma ne_quote_of_isBreak {c : Char} (h : isBreak c = true) : c ≠ d.quotes.2 ∧ c ≠ '\'' := by
  simp only [isBreak, List.contains_eq_mem, List.mem_cons, List.not_mem_nil, or_false,
    decide_eq_true_eq] at h
  rcases h with rfl | rfl | rfl | rfl | rfl <;> cases d <;> decide

/-- A scan of a quoted name is within its name. -/
lemma steps_identifier (name : String) :
    Scan.steps d (d.quoteIdentifier name).toList .gap = ([], .nameEnd name.toList) := by
  have hstart : Scan.gap.step d d.quotes.1 = ([], .name []) := by
    simp [Scan.step, Scan.continued?, Scan.start, Scan.pending]
  rw [Dialect.quoteIdentifier, String.toList_ofList, Scan.steps, hstart, Scan.steps_name]
  rfl

/-- A scan of a quoted text is within its text. -/
lemma steps_quoted {cs : List Char} (h : '\'' ∉ cs) :
    Scan.steps d ('\'' :: (cs ++ ['\''])) .gap = ([], .literalEnd cs) := by
  have hstart : Scan.gap.step d '\'' = ([], .literal []) := by cases d <;> rfl
  rw [Scan.steps, hstart, Scan.steps_literal h]
  rfl

/-- A break belongs to no quoted identifier and to no literal that is complete. -/
lemma stops_of_quoted (cs : List Char) (ho : Opens rest) :
    (Scan.nameEnd cs).Stops d rest ∧ (Scan.literalEnd cs).Stops d rest := by
  refine ⟨fun c hc => ?_, fun c hc => ?_⟩ <;>
    simp [Scan.continued?, (ne_quote_of_isBreak (d := d) (ho c hc))]

/-- A quoted name is scanned as its name. -/
lemma scan_identifier (name : String) (ho : Opens rest) :
    scan? d .gap ((d.quoteIdentifier name).toList ++ rest) =
      (scan? d .gap rest).map ([.name name] ++ ·) := by
  have hsteps := steps_identifier (d := d) name
  have hstops := (stops_of_quoted (d := d) name.toList ho).1
  rw [scan_append (by rw [hsteps]; rfl) (by rw [hsteps]; exact hstops), hsteps]
  simp [Scan.pending]

/-- A quoted text is scanned as its text. -/
lemma scan_literal {s : String} (h : '\'' ∉ s.toList) (ho : Opens rest) :
    scan? d .gap ('\'' :: (s.toList ++ ['\'']) ++ rest) =
      (scan? d .gap rest).map ([.literal s] ++ ·) := by
  have hsteps := steps_quoted (d := d) h
  have hstops := (stops_of_quoted (d := d) s.toList ho).2
  rw [scan_append (by rw [hsteps]; rfl) (by rw [hsteps]; exact hstops), hsteps]
  simp [Scan.pending]

/-- To renumber placeholders leaves a quoted name as it is. -/
lemma rewrite_identifier (k : Nat) (name : String) (ho : Opens rest) :
    Scan.rewrite d k ((d.quoteIdentifier name).toList ++ rest) .gap =
      (d.quoteIdentifier name).toList ++ Scan.rewrite d k rest .gap := by
  have hsteps := steps_identifier (d := d) name
  refine Scan.rewrite_unmarked ?_ ?_
  · simp [hsteps, Scan.pending, Token.marker?]
  · rw [hsteps]
    exact (stops_of_quoted name.toList ho).1

/-- To renumber placeholders leaves a quoted text as it is. -/
lemma rewrite_literal (k : Nat) {s : String} (h : '\'' ∉ s.toList) (ho : Opens rest) :
    Scan.rewrite d k ('\'' :: (s.toList ++ ['\'']) ++ rest) .gap =
      '\'' :: (s.toList ++ ['\'']) ++ Scan.rewrite d k rest .gap := by
  have hsteps := steps_quoted (d := d) h
  refine Scan.rewrite_unmarked ?_ ?_
  · simp [hsteps, Scan.pending, Token.marker?]
  · rw [hsteps]
    exact (stops_of_quoted s.toList ho).2

end Quoted

section Placeholders

variable {d : Dialect}

/-- The characters of a placeholder. -/
lemma toList_placeholder (n : Nat) :
    (d.placeholder n).toList = d.marker :: 'p' :: (toString n).toList := by
  rw [Dialect.placeholder, Dialect.parameterMark, String.toList_ofList, String.toList_append]
  rfl

/-- The mark of placeholders begins a word. -/
lemma start_marker : Scan.start d d.marker = ([], .word [d.marker]) := by cases d <;> rfl

/-- A placeholder is one. -/
@[simp] lemma isMarker_placeholder (n : Nat) : isMarker d (d.placeholder n) = true := by
  rw [isMarker, toList_placeholder]
  cases d <;> rfl

/-- Different parameters have different placeholders. -/
lemma placeholder_injective {m n : Nat} (h : d.placeholder m = d.placeholder n) : m = n := by
  have hl := congrArg String.toList h
  rw [toList_placeholder, toList_placeholder] at hl
  simp only [List.cons.injEq, true_and] at hl
  exact toString_injective (String.toList_injective hl)

/-- The characters of a placeholder after its mark are those of words. -/
lemma isWordChar_of_mem_mark {n : Nat} {c : Char} (h : c ∈ 'p' :: (toString n).toList) :
    isWordChar c = true := by
  cases h with
  | head => decide
  | tail _ hc => simp [isWordChar, Char.isAlphanum, isDigit_of_mem_toString hc]

/-- A placeholder is one token. -/
lemma wordTokens_placeholder (n : Nat) :
    (placeAfter d (d.placeholder n).toList).isWhole = true ∧
      wordTokens d (d.placeholder n) = [.word (d.placeholder n)] :=
  wordTokens_plain (toList_placeholder n) start_marker fun _ => isWordChar_of_mem_mark

/-- To renumber a placeholder adds to its number. -/
lemma rewrite_placeholder (k n : Nat) :
    Scan.rewrite d k (d.placeholder n).toList .gap = (d.placeholder (n + k)).toList := by
  have hnumber : markedNumber? d (d.marker :: 'p' :: (toString n).toList) = some n :=
    (if_pos ⟨rfl, rfl⟩).trans (readNat_toString n)
  rw [toList_placeholder, Scan.rewrite_plain start_marker fun _ => isWordChar_of_mem_mark,
    renumberWord, hnumber, Nat.add_comm]

end Placeholders

/-- Whether several pieces begin with a character that ends the token before them, or are empty. -/
def Begins (d : Dialect) (ps : List Piece) : Prop := ∀ n, Opens (piecesText d n ps).toList

/-- Whether several pieces begin with a character that belongs to no sign. -/
def Unsigned (d : Dialect) (ps : List Piece) : Prop :=
  ∀ n, ∀ c ∈ (piecesText d n ps).toList.head?, isSymbolChar c = false

/-- Whether a word ends outside quotation and holds no mark of a parameter. -/
def isFixed (d : Dialect) (s : String) : Bool :=
  (placeAfter d s.toList).isWhole && (wordTokens d s).all fun t => (t.marker? d).isNone

/-- Whether a word is fixed and anything may follow it. -/
def isClosed (d : Dialect) (s : String) : Bool := isFixed d s && (placeAfter d s.toList).isGap

/-- Several pieces are read by themselves, the marks of parameters among their tokens are the
numbers of the values that they bind, and these marks are all that depends on where the numbers
begin. -/
structure Scans (d : Dialect) (ps : List Piece) : Prop where
  read : ∀ n rest, Opens rest →
    scan? d .gap ((piecesText d n ps).toList ++ rest) =
      (scan? d .gap rest).map (tokensOf d n ps ++ ·)
  marks : ∀ n, (tokensOf d n ps).filterMap (Token.marker? d) =
    (List.range' n (boundValues ps).length).map d.placeholder
  renumbers : ∀ k n rest, Opens rest →
    Scan.rewrite d k ((piecesText d n ps).toList ++ rest) .gap =
      (piecesText d (n + k) ps).toList ++ Scan.rewrite d k rest .gap

/-- What opens, with what opens after it, opens. -/
lemma Opens.append {xs ys : List Char} (hx : Opens xs) (hy : Opens ys) : Opens (xs ++ ys) := by
  cases xs with
  | nil => exact hy
  | cons c cs => exact hx

/-- A character that ends tokens is no symbol. -/
lemma not_isSymbolChar_of_isBreak {c : Char} (h : isBreak c = true) : isSymbolChar c = false := by
  simp only [isBreak, List.contains_eq_mem, List.mem_cons, List.not_mem_nil, or_false,
    decide_eq_true_eq] at h
  rcases h with rfl | rfl | rfl | rfl | rfl <;> rfl

/-- To renumber placeholders leaves a plain name as it is. -/
lemma isFixed_name {d : Dialect} {s : String} (h : isPlainName s = true) : isFixed d s = true := by
  obtain ⟨hw, ht, hm⟩ := wordTokens_name (d := d) h
  simp [isFixed, hw, ht, Token.marker?, hm]

namespace Scans

variable {d : Dialect} {ps qs : List Piece} {s : String}

/-- No pieces are scanned as nothing. -/
lemma nil : Scans d [] where
  read n rest _ := by simp [piecesText]
  marks n := rfl
  renumbers k n rest _ := by simp [piecesText]

/-- Pieces one after another, where the later ones end the token before them. -/
lemma append (hps : Scans d ps) (hqs : Scans d qs) (hb : Begins d qs) : Scans d (ps ++ qs) where
  read n rest ho := by
    rw [piecesText_append, tokensOf_append, String.toList_append, List.append_assoc,
      hps.read n _ ((hb _).append ho), hqs.read _ _ ho, Option.map_map]
    simp [Function.comp_def, List.append_assoc]
  marks n := by
    rw [tokensOf_append, List.filterMap_append, hps.marks, hqs.marks, boundValues_append,
      List.length_append, ← List.map_append, List.range'_append_1]
  renumbers k n rest ho := by
    rw [piecesText_append, piecesText_append, String.toList_append, String.toList_append,
      List.append_assoc, hps.renumbers k n _ ((hb _).append ho), hqs.renumbers k _ _ ho,
      List.append_assoc, Nat.add_right_comm]

/-- A word before pieces, if it ends before them. -/
lemma word_cons (hf : isFixed d s = true)
    (hs : ∀ n rest, Opens rest →
      (placeAfter d s.toList).Stops d ((piecesText d n ps).toList ++ rest))
    (h : Scans d ps) : Scans d (.word s :: ps) := by
  rw [isFixed, Bool.and_eq_true] at hf
  obtain ⟨hw, hm⟩ := hf
  constructor
  case read =>
    intro n rest ho
    rw [piecesText_word, tokensOf_word, String.toList_append, List.append_assoc,
      scan_word hw (hs n rest ho), h.read n rest ho, Option.map_map]
    simp [Function.comp_def, List.append_assoc]
  case marks =>
    intro n
    -- A fixed word has no mark of a parameter, so the marks are those of the rest.
    have hnone : (wordTokens d s).filterMap (Token.marker? d) = [] := by
      rw [List.filterMap_eq_nil_iff]
      intro t ht
      exact Option.isNone_iff_eq_none.mp (List.all_eq_true.mp hm t ht)
    rw [tokensOf_word, List.filterMap_append, hnone, List.nil_append, h.marks, boundValues_word]
  case renumbers =>
    intro k n rest ho
    have hnone : ∀ t ∈ (Scan.steps d s.toList .gap).1 ++ (placeAfter d s.toList).pending,
        t.marker? d = none := by
      rw [← wordTokens_eq hw]
      exact fun t ht => Option.isNone_iff_eq_none.mp (List.all_eq_true.mp hm t ht)
    rw [piecesText_word, piecesText_word, String.toList_append, String.toList_append,
      List.append_assoc, Scan.rewrite_unmarked hnone (hs n rest ho), h.renumbers k n rest ho,
      List.append_assoc]

/-- A word that ends by itself before pieces. -/
lemma closed_cons (hc : isClosed d s = true) (h : Scans d ps) : Scans d (.word s :: ps) := by
  rw [isClosed, Bool.and_eq_true] at hc
  obtain ⟨hf, hg⟩ := hc
  refine word_cons hf ?_ h
  intro n rest _
  cases hp : placeAfter d s.toList with
  | gap => exact Scan.stops_gap _
  | _ => rw [hp] at hg; cases hg

/-- A word before pieces that begin a token. -/
lemma fixed_cons (hf : isFixed d s = true) (h : Scans d ps) (hb : Begins d ps) :
    Scans d (.word s :: ps) := by
  have hw : (placeAfter d s.toList).isWhole = true := by
    rw [isFixed, Bool.and_eq_true] at hf
    exact hf.1
  exact word_cons hf (fun n rest ho => Scan.stops_of_opens hw ((hb n).append ho)) h

/-- A word is scanned as its tokens. -/
lemma word (hf : isFixed d s = true) : Scans d [.word s] :=
  fixed_cons hf nil fun _ => by simp [Opens, piecesText]

/-- A sign before pieces that do not begin with one. -/
lemma sign_cons (hf : isFixed d s = true) (hs : placeAfter d s.toList = .symbol s.toList)
    (h : Scans d ps) (hu : Unsigned d ps) : Scans d (.word s :: ps) := by
  refine word_cons hf ?_ h
  intro n rest ho c hc
  have hsign : isSymbolChar c = false := by
    cases ht : (piecesText d n ps).toList with
    | nil =>
      rw [ht, List.nil_append] at hc
      exact not_isSymbolChar_of_isBreak (ho c hc)
    | cons x xs =>
      rw [ht] at hc
      cases hc
      exact hu n c (by rw [ht]; rfl)
  simp [hs, Scan.continued?, hsign]

/-- A quoted name is scanned as a token. -/
lemma identifier (name : String) : Scans d [.identifier name] where
  read n rest ho := by
    simpa [piecesText, Piece.text, tokensOf, Piece.tokens] using scan_identifier name ho
  marks n := rfl
  renumbers k n rest ho := by
    simpa [piecesText, Piece.text] using rewrite_identifier k name ho

/-- The characters of a literal text. -/
lemma toList_literal (n : Nat) (s : String) :
    ((Piece.literal s).text d n).toList = '\'' :: (s.toList ++ ['\'']) := by
  change ("'" ++ s ++ "'").toList = _
  rw [String.toList_append, String.toList_append]
  rfl

/-- A literal text is scanned as a token. -/
lemma literal (h : '\'' ∉ s.toList) : Scans d [.literal s] where
  read n rest ho := by
    simpa [piecesText, tokensOf, Piece.tokens, toList_literal] using scan_literal h ho
  marks n := rfl
  renumbers k n rest ho := by
    simpa [piecesText, toList_literal] using rewrite_literal k h ho

/-- A placeholder is scanned as a token. -/
lemma param (v : Value) : Scans d [.param v] where
  read n rest ho := by
    obtain ⟨hw, ht⟩ := wordTokens_placeholder (d := d) n
    have h := scan_word hw (Scan.stops_of_opens hw ho)
    simpa [piecesText, Piece.text, tokensOf, Piece.tokens, ht] using h
  marks n := by simp [tokensOf, Piece.tokens, Token.marker?]
  renumbers k n rest ho := by
    obtain ⟨hw, -⟩ := wordTokens_placeholder (d := d) n
    have h := Scan.rewrite_append (k := k) (Scan.stops_of_opens hw ho)
    rw [rewrite_placeholder] at h
    simpa [piecesText, Piece.text] using h

/-- The text of several pieces where the numbers begin later is their text, renumbered. -/
lemma renumber (h : Scans d ps) (k n : Nat) :
    piecesText d (n + k) ps = Sql.renumber d k (piecesText d n ps) := by
  have hopens : Opens [] := fun _ hc => nomatch hc
  have hall := h.renumbers k n [] hopens
  have hend : Scan.rewrite d k [] .gap = [] := rfl
  rw [hend, List.append_nil, List.append_nil] at hall
  rw [Sql.renumber, hall, String.ofList_toList]

end Scans

end TableQuery.Sql
