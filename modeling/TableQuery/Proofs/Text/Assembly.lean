import TableQuery.Proofs.Text.Arrangement
import TableQuery.Proofs.Text.Piece

/-!
# Assembling texts

How the phrases of a text follow from the pieces it is written from.  Pieces print some phrases
(`Prints`) if their text is read piece by piece and its tokens add just these phrases.  The lemmas
build texts as they are written: a word before pieces, pieces after pieces, and pieces between
parentheses, by themselves or as the arguments of a call.  What a fixed word contributes is computed
from the word.
-/

namespace TableQuery.Sql

/-- The parameters numbered from `n` have the given values. -/
def Binds (d : Dialect) (bound : String → Option Value) (n : Nat) (vs : List Value) : Prop :=
  ∀ i v, vs[i]? = some v → bound (d.placeholder (n + i)) = some v

/-- Whether pieces bind no null. -/
def BindsNoNull (us : List Piece) : Prop := ∀ v ∈ boundValues us, v.isNull = false

/-- Pieces print phrases: they are read by themselves, their tokens add just these phrases, and they
bind no null. -/
structure Prints (d : Dialect) (us : List Piece) (ps : List Phrase) : Prop where
  scans : Scans d us
  bound : BindsNoNull us
  adds : ∀ bound n, Binds d bound n (boundValues us) → Adds d bound (tokensOf d n us) ps

/-- The phrases of some tokens that are phrases by themselves. -/
def plains? (d : Dialect) (ts : List Token) : Option (List Phrase) := ts.mapM (Token.plain? d)

/-- Whether a word begins with a character that ends the token before it. -/
def beginsWord (s : String) : Bool := s.toList.head?.any isBreak

/-- The phrases of a word, if its tokens are phrases by themselves. -/
def wordPhrases? (d : Dialect) (s : String) : Option (List Phrase) :=
  if isFixed d s then plains? d (wordTokens d s) else none

/-- The phrases of a word that anything may follow. -/
def leadPhrases? (d : Dialect) (s : String) : Option (List Phrase) :=
  if isFixed d s && endsSettled (wordTokens d s) then plains? d (wordTokens d s) else none

/-- The phrases of a word that ends what stands before it and that anything may follow. -/
def betweenPhrases? (d : Dialect) (s : String) : Option (List Phrase) :=
  if beginsWord s && isClosed d s && endsSettled (wordTokens d s) then plains? d (wordTokens d s)
  else none

/-- The phrases of a word that ends what stands before it. -/
def endPhrases? (d : Dialect) (s : String) : Option (List Phrase) :=
  if beginsWord s && isFixed d s then plains? d (wordTokens d s) else none

/-- The phrases of a word that ends in an opening parenthesis, as far as they stand before it. -/
def openingPhrases? (d : Dialect) (s : String) : Option (List Phrase) :=
  if isClosed d s && (wordTokens d s).getLast? == some (.mark '(') &&
      endsSettled (wordTokens d s).dropLast then
    plains? d (wordTokens d s).dropLast
  else none

/-- The phrases of a word that begins with a closing parenthesis, as far as they stand behind it. -/
def closingPhrases? (d : Dialect) (s : String) : Option (List Phrase) :=
  match wordTokens d s with
  | .mark ')' :: ts =>
    if isClosed d s && beginsWord s && endsSettled ts then plains? d ts else none
  | _ => none

/-- The name of a function and the phrases behind it, for a word that begins with the name and an
opening parenthesis. -/
def callPhrases? (d : Dialect) (s : String) : Option (String × List Phrase) :=
  match wordTokens d s with
  | .word f :: .mark '(' :: ts =>
    if isClosed d s && !keywords.contains f && !isMarker d f && endsSettled ts then
      (plains? d ts).map (f, ·)
    else none
  | _ => none

section Pieces

variable {d : Dialect} {bound : String → Option Value} {us vs : List Piece} {ps qs : List Phrase}
  {s : String}

/-- What binds the values of two lists binds those of the first. -/
lemma Binds.left {n : Nat} {xs ys : List Value} (h : Binds d bound n (xs ++ ys)) :
    Binds d bound n xs := by
  intro i v hv
  refine h i v ?_
  obtain ⟨hi, -⟩ := List.getElem?_eq_some_iff.mp hv
  rw [List.getElem?_append_left hi, hv]

/-- What binds the values of two lists binds those of the second after the first. -/
lemma Binds.right {n : Nat} {xs ys : List Value} (h : Binds d bound n (xs ++ ys)) :
    Binds d bound (n + xs.length) ys := by
  intro i v hv
  rw [Nat.add_assoc]
  refine h _ v ?_
  rw [List.getElem?_append_right (Nat.le_add_right ..), Nat.add_sub_cancel_left, hv]

/-- A word that begins other than with a symbol. -/
lemma Begins.word (h : beginsWord s = true) : Begins d (.word s :: us) := by
  intro n c hc
  rw [piecesText_word, String.toList_append] at hc
  cases hs : s.toList with
  | nil => simp [beginsWord, hs] at h
  | cons x xs =>
    rw [hs] at hc
    cases hc
    simpa [beginsWord, hs] using h

/-- Pieces after others begin as these do. -/
lemma Begins.append (hu : Begins d us) (hv : Begins d vs) : Begins d (us ++ vs) := by
  intro n
  rw [piecesText_append, String.toList_append]
  exact (hu _).append (hv _)

/-- No pieces begin with nothing. -/
lemma Begins.nil : Begins d [] := fun _ => by simp [Opens, piecesText]

/-- No pieces bind no null. -/
lemma BindsNoNull.nil : BindsNoNull [] := fun v hv => by cases hv

/-- Pieces one after another bind no null if all of them bind none. -/
lemma BindsNoNull.append (hu : BindsNoNull us) (hv : BindsNoNull vs) : BindsNoNull (us ++ vs) := by
  intro v h
  rw [boundValues_append, List.mem_append] at h
  cases h with
  | inl h => exact hu v h
  | inr h => exact hv v h

namespace Prints

/-- No pieces print no phrases. -/
lemma nil : Prints d [] [] where
  scans := Scans.nil
  bound := .nil
  adds _ _ _ := Settles.nil.adds

/-- A word prints the phrases of its tokens. -/
lemma word (h : wordPhrases? d s = some ps) : Prints d [.word s] ps := by
  unfold wordPhrases? at h
  split at h
  case isTrue hf =>
    refine ⟨Scans.word hf, .nil, fun bound n _ => ?_⟩
    rw [tokensOf_word, tokensOf_nil, List.append_nil]
    exact Adds.plains h
  case isFalse => cases h

/-- A plain name prints itself. -/
lemma name (h : isPlainName s = true) : Prints d [.word s] [.word s] := by
  obtain ⟨-, ht, hm⟩ := wordTokens_name (d := d) h
  refine word ?_
  rw [wordPhrases?, if_pos (isFixed_name h), ht, plains?, List.mapM_cons, Token.plain?, hm]
  rfl

/-- A negative number prints a sign and a numeral. -/
lemma minus (h : isPlainName s = true) :
    Prints d [.word ("-" ++ s)] [.symbol "-", .word s] := by
  obtain ⟨hwhole, htokens⟩ := wordTokens_minus (d := d) h
  obtain ⟨-, -, hm⟩ := wordTokens_name (d := d) h
  refine word ?_
  have hf : isFixed d ("-" ++ s) = true := by
    rw [isFixed, hwhole, htokens]
    simp [Token.marker?, hm]
  rw [wordPhrases?, if_pos hf, htokens, plains?, List.mapM_cons, List.mapM_cons, Token.plain?,
    Token.plain?, hm]
  rfl

/-- A quoted name prints a column. -/
lemma identifier (name : String) : Prints d [.identifier name] [.column none name] where
  scans := Scans.identifier name
  bound := .nil
  adds bound n _ rest here around ha hh := by
    rw [tokensOf, tokensOf, List.append_nil, Piece.tokens, List.singleton_append, arrange, ha]
    simp [place, joinName_of_quiet hh]

/-- A literal text prints itself. -/
lemma literal (h : '\'' ∉ s.toList) : Prints d [.literal s] [.literal s] where
  scans := Scans.literal h
  bound := .nil
  adds bound n _ rest here around ha _ := by
    rw [tokensOf, tokensOf, List.append_nil, Piece.tokens, List.singleton_append, arrange, ha]
    rfl

/-- A parameter prints its value. -/
lemma param {v : Value} (h : v.isNull = false) : Prints d [.param v] [.value v] where
  scans := Scans.param v
  bound := fun w hw => by
    cases List.mem_singleton.mp hw
    exact h
  adds bound n hb rest here around ha _ := by
    have hv : bound (d.placeholder n) = some v := hb 0 v rfl
    rw [tokensOf, tokensOf, List.append_nil, Piece.tokens, List.singleton_append, arrange, ha]
    simp [place, hv, Frames.push]

/-- Pieces after others, where no token and no phrase runs into the next. -/
lemma append (hu : Prints d us ps) (hv : Prints d vs qs) (hb : Begins d vs) (hq : Quiet qs) :
    Prints d (us ++ vs) (ps ++ qs) where
  scans := hu.scans.append hv.scans hb
  bound := hu.bound.append hv.bound
  adds bound n h := by
    rw [boundValues_append] at h
    rw [tokensOf_append]
    exact (hu.adds bound n h.left).append (hv.adds bound _ h.right) hq

end Prints

/-- Pieces that can follow others: they begin with a break, and their phrases join nothing. -/
structure Follows (d : Dialect) (us : List Piece) (ps : List Phrase) : Prop where
  prints : Prints d us ps
  begins : Begins d us
  quiet : Quiet ps

namespace Follows

/-- No pieces follow as no phrases. -/
lemma nil : Follows d [] [] := ⟨Prints.nil, Begins.nil, fun _ h => by cases h⟩

/-- A word that ends what stands before it can follow other pieces. -/
lemma word (h : endPhrases? d s = some ps) : Follows d [.word s] ps := by
  unfold endPhrases? at h
  split at h
  case isTrue hc =>
    obtain ⟨hb, hf⟩ := Bool.and_eq_true_iff.mp hc
    have hw : wordPhrases? d s = some ps := by
      rw [wordPhrases?, if_pos hf]
      exact h
    exact ⟨Prints.word hw, Begins.word hb, Quiet.plains h⟩
  case isFalse => cases h

/-- Pieces that follow may be followed by others. -/
lemma append (hu : Follows d us ps) (hv : Follows d vs qs) : Follows d (us ++ vs) (ps ++ qs) where
  prints := hu.prints.append hv.prints hv.begins hv.quiet
  begins := hu.begins.append hv.begins
  quiet := hu.quiet.append hv.quiet

end Follows

namespace Prints

/-- A word before pieces prints its phrases before theirs. -/
lemma lead (hv : Prints d vs qs) (h : leadPhrases? d s = some ps)
    (hs : isClosed d s = true ∨ Begins d vs) : Prints d (.word s :: vs) (ps ++ qs) := by
  unfold leadPhrases? at h
  split at h
  case isTrue hf =>
    obtain ⟨hf, he⟩ := Bool.and_eq_true_iff.mp hf
    constructor
    case scans =>
      cases hs with
      | inl hc => exact Scans.closed_cons hc hv.scans
      | inr hb => exact Scans.fixed_cons hf hv.scans hb
    case bound => exact hv.bound
    case adds =>
      intro bound n hb
      rw [tokensOf_word]
      exact (Settles.plains h he).append_adds (hv.adds bound n hb)
  case isFalse => cases h

/-- Pieces that follow print their phrases after others. -/
lemma followed (hu : Prints d us ps) (hv : Follows d vs qs) : Prints d (us ++ vs) (ps ++ qs) :=
  hu.append hv.prints hv.begins hv.quiet

/-- Pieces may follow behind a word that stands between. -/
lemma follows {p : Phrase} {m : List Phrase} (hv : Prints d vs qs)
    (h : betweenPhrases? d s = some (p :: m)) : Follows d (.word s :: vs) (p :: (m ++ qs)) := by
  unfold betweenPhrases? at h
  split at h
  case isTrue hc =>
    obtain ⟨hc, he⟩ := Bool.and_eq_true_iff.mp hc
    obtain ⟨hb, hc⟩ := Bool.and_eq_true_iff.mp hc
    have hl : leadPhrases? d s = some (p :: m) := by
      rw [leadPhrases?, (Bool.and_eq_true_iff.mp hc).1, he]
      exact h
    have hq : Quiet (p :: m) := Quiet.plains h
    exact ⟨hv.lead hl (.inl hc), Begins.word hb, hq⟩
  case isFalse => cases h

/-- A word between pieces prints its phrases between theirs. -/
lemma between {p : Phrase} {m : List Phrase} (hu : Prints d us ps)
    (h : betweenPhrases? d s = some (p :: m)) (hv : Prints d vs qs) :
    Prints d (us ++ .word s :: vs) (ps ++ p :: (m ++ qs)) := hu.followed (hv.follows h)

/-- A word after pieces prints its phrases after theirs. -/
lemma behind (hu : Prints d us ps) (h : endPhrases? d s = some qs) :
    Prints d (us ++ [Piece.word s]) (ps ++ qs) := hu.followed (Follows.word h)

/-- A word with blanks around it prints its phrases between others. -/
lemma spaced {p : Phrase} {m : List Phrase} (hu : Prints d us ps)
    (h : leadPhrases? d s = some (p :: m)) (hv : Prints d vs qs) :
    Prints d (us ++ .word " " :: .word s :: .word " " :: vs) (ps ++ p :: (m ++ qs)) := by
  have hspace : leadPhrases? d " " = some [] ∧ isClosed d " " = true := by
    cases d <;> exact ⟨rfl, rfl⟩
  have hright := hv.lead hspace.1 (.inl hspace.2)
  have hsign := (hright.lead h (.inr (Begins.word rfl))).lead hspace.1 (.inl hspace.2)
  have hq : Quiet (p :: (m ++ qs)) := by
    unfold leadPhrases? at h
    split at h
    · have hp : Quiet (p :: m) := Quiet.plains h
      exact hp
    · cases h
  exact hu.append hsign (Begins.word rfl) hq

/-- A sign before pieces that do not begin with one. -/
lemma sign (hv : Prints d vs qs) (hu : Unsigned d vs) (h : leadPhrases? d s = some ps)
    (hp : placeAfter d s.toList = .symbol s.toList) : Prints d (.word s :: vs) (ps ++ qs) := by
  unfold leadPhrases? at h
  split at h
  case isTrue hf =>
    obtain ⟨hf, he⟩ := Bool.and_eq_true_iff.mp hf
    refine ⟨Scans.sign_cons hf hp hv.scans hu, hv.bound, fun bound n hb => ?_⟩
    rw [tokensOf_word]
    exact (Settles.plains h he).append_adds (hv.adds bound n hb)
  case isFalse => cases h

/-- Pieces in parentheses, with words before and after. -/
lemma enclosed {e : String} {m es : List Phrase} (hu : Prints d us ps) (hv : Prints d vs qs)
    (ho : openingPhrases? d s = some m) (he : closingPhrases? d e = some es) :
    Prints d (.word s :: (us ++ .word e :: vs)) (m ++ .group ps :: (es ++ qs)) := by
  unfold openingPhrases? at ho
  unfold closingPhrases? at he
  split at ho
  case isFalse => cases ho
  case isTrue hopen =>
    split at he
    case h_2 => cases he
    case h_1 ts hts =>
      split at he
      case isFalse => cases he
      case isTrue hclose =>
        simp only [Bool.and_eq_true, beq_iff_eq] at hopen hclose
        obtain ⟨⟨hsc, hlast⟩, hmid⟩ := hopen
        obtain ⟨⟨hec, hbegin⟩, hpost⟩ := hclose
        constructor
        case scans =>
          exact Scans.closed_cons hsc
            (hu.scans.append (Scans.closed_cons hec hv.scans) (Begins.word hbegin))
        case bound => exact hu.bound.append hv.bound
        case adds =>
          intro bound n hb
          rw [boundValues_word, boundValues_append, boundValues_word] at hb
          -- The opening bracket is the last token of the word before, the closing one the first of
          -- the word behind; what else the two words hold stands outside of the group.
          obtain ⟨mid, hs⟩ := List.getLast?_eq_some_iff.mp hlast
          rw [hs, List.dropLast_concat] at ho hmid
          have hinside := (hu.adds bound n hb.left).group
          have hbehind := (Settles.plains he hpost).append_adds (hv.adds bound _ hb.right)
          rw [tokensOf_word, tokensOf_append, tokensOf_word, hts, hs]
          have hall := (Settles.plains ho hmid).append_adds (hinside.append_adds hbehind)
          simpa using hall

/-- Pieces in parentheses behind the word of a call. -/
lemma call {f : String} {m : List Phrase} (hu : Prints d us ps)
    (h : callPhrases? d s = some (f, m)) :
    Prints d (.word s :: (us ++ [Piece.word ")"])) [.call f (m ++ ps)] := by
  unfold callPhrases? at h
  split at h
  case h_2 => cases h
  case h_1 g ts hts =>
    split at h
    case isFalse => cases h
    case isTrue hcond =>
      -- The word of a call may go on behind the bracket, and what follows is part of the call.
      obtain ⟨m', hms, heq⟩ := Option.map_eq_some_iff.mp h
      cases heq
      simp only [Bool.and_eq_true, Bool.not_eq_true', List.contains_eq_mem,
        decide_eq_false_iff_not] at hcond
      obtain ⟨⟨⟨hc, hf⟩, hm⟩, hs⟩ := hcond
      have hclosed : isClosed d ")" = true := by cases d <;> rfl
      have hclose : wordTokens d ")" = [.mark ')'] := by cases d <;> rfl
      constructor
      case scans =>
        exact Scans.closed_cons hc
          (hu.scans.append (Scans.closed_cons hclosed Scans.nil) (Begins.word rfl))
      case bound => exact hu.bound.append .nil
      case adds =>
        intro bound n hb
        rw [boundValues_word, boundValues_append] at hb
        have hinside := (Settles.plains hms hs).append_adds (hu.adds bound n hb.left)
        rw [tokensOf_word, tokensOf_append, tokensOf_word, hts, hclose]
        simpa using (hinside.call hf hm).adds

/-- Pieces between the parentheses behind a name, where the name is written apart. -/
lemma nameCall (hu : Prints d us ps) (hs : isPlainName s = true) (hk : s ∉ keywords) :
    Prints d (.word s :: .word "(" :: (us ++ [Piece.word ")"])) [.call s ps] := by
  have hopen : isClosed d "(" = true ∧ wordTokens d "(" = [.mark '('] := by
    cases d <;> exact ⟨rfl, rfl⟩
  have hclose : isClosed d ")" = true ∧ wordTokens d ")" = [.mark ')'] := by
    cases d <;> exact ⟨rfl, rfl⟩
  obtain ⟨-, ht, hm⟩ := wordTokens_name (d := d) hs
  constructor
  case scans =>
    have hinside := hu.scans.append (Scans.closed_cons hclose.1 Scans.nil) (Begins.word rfl)
    exact Scans.fixed_cons (isFixed_name hs) (Scans.closed_cons hopen.1 hinside) (Begins.word rfl)
  case bound => exact hu.bound.append .nil
  case adds =>
    intro bound n hb
    rw [boundValues_word, boundValues_word, boundValues_append] at hb
    rw [tokensOf_word, tokensOf_word, tokensOf_append, tokensOf_word, ht, hopen.2, hclose.2]
    simpa using ((hu.adds bound n hb.left).call hk hm).adds

/-- A word that is a whole call. -/
lemma fixedCall {f : String} {t : List Token} (hs : isFixed d s = true)
    (ht : wordTokens d s = .word f :: .mark '(' :: (t ++ [Token.mark ')']))
    (hf : isPlainName f = true) (hk : f ∉ keywords) (hp : plains? d t = some ps) :
    Prints d [.word s] [.call f ps] where
  scans := Scans.word hs
  bound := .nil
  adds bound n _ := by
    obtain ⟨-, -, hm⟩ := wordTokens_name (d := d) hf
    rw [tokensOf_word, tokensOf_nil, List.append_nil, ht]
    exact ((Adds.plains hp).call hk hm).adds

end Prints

/-- The tokens of a text that is read by itself. -/
theorem Scans.tokens? (h : Scans d us) (n : Nat) :
    tokens? d (piecesText d n us) = some (tokensOf d n us) := by
  have hopen : Opens [] := fun _ hc => by cases hc
  have hread := h.read n [] hopen
  rw [List.append_nil] at hread
  rw [Sql.tokens?, hread]
  simp [scan?, Scan.steps, Scan.finish?, Scan.pending]

/-- The phrases of a text that prints some phrases, where its parameters have the values bound. -/
theorem Prints.phrases? (h : Prints d us ps) {n : Nat} (hb : Binds d bound n (boundValues us)) :
    phrases? d bound (piecesText d n us) = some ps := by
  have harranged : arrange d bound (tokensOf d n us) = some ⟨ps, []⟩ := by
    have hadds := h.adds bound n hb [] [] [] rfl fun _ hp => by cases hp
    rwa [List.append_nil, List.append_nil] at hadds
  simp [Sql.phrases?, h.scans.tokens? n, harranged]

/-- The marks of parameters in a text that is read by itself. -/
theorem Scans.markers? (h : Scans d us) (n : Nat) :
    markers? d (piecesText d n us) =
      some ((List.range' n (boundValues us).length).map d.placeholder) := by
  rw [Sql.markers?, h.tokens? n, Option.map_some, h.marks n]

end Pieces

end TableQuery.Sql
