import TableQuery.Number.Integer
import TableQuery.Proofs.Text.Token

/-!
# Renumbering

A text with its parameters renumbered (`renumber`): the number of every parameter is raised, and all
else stays as it is.  Only a whole word outside quotation marks a parameter, so the text is scanned,
and the characters of a word are held back until the word is complete.

A text without marks of parameters is not changed (`Scan.rewrite_eq_self`), and a text may be
renumbered in two parts wherever it may be cut (`Scan.rewrite_append`).
-/

namespace TableQuery.Sql

/-- The number of the parameter that a word marks. -/
def markedNumber? (d : Dialect) : List Char → Option Nat
  | m :: p :: digits => if m = d.marker ∧ p = 'p' then Number.readNat digits else none
  | _ => none

/-- A word with its number raised if it marks a parameter. -/
def renumberWord (d : Dialect) (k : Nat) (word : List Char) : List Char :=
  match markedNumber? d word with
  | some n => (d.placeholder (k + n)).toList
  | none => word

namespace Scan

/-- The characters that are held back: those of a word that may go on. -/
def held : Scan → List Char
  | word cs => cs
  | _ => []

/-- The character before a place, unless it is held back there. -/
def passed (c : Char) : Scan → List Char
  | word _ => []
  | _ => [c]

/-- What is written at a step: the word that ends before the character, and the character itself
unless it is held back. -/
def written (d : Dialect) (k : Nat) (c : Char) (st : Scan) : List Char :=
  (if (st.continued? d c).isNone then renumberWord d k st.held else []) ++ (st.step d c).2.passed c

/-- The rest of a text with its parameters renumbered. -/
def rewrite (d : Dialect) (k : Nat) : List Char → Scan → List Char
  | [], st => renumberWord d k st.held
  | c :: cs, st => st.written d k c ++ rewrite d k cs (st.step d c).2

end Scan

/-- A text where the numbers of all parameters are raised. -/
def renumber (d : Dialect) (k : Nat) (text : String) : String :=
  String.ofList (Scan.rewrite d k text.toList .gap)

example : renumber .sqlite 3 "[$p1] = $p12" = "[$p1] = $p15" := by decide

section Words

variable {d : Dialect} {k : Nat}

/-- A word that marks no parameter keeps its characters. -/
lemma renumberWord_eq_self {w : List Char} (h : isMarker d (String.ofList w) = false) :
    renumberWord d k w = w := by
  have hnone : markedNumber? d w = none := by
    match w with
    | [] => rfl
    | [_] => rfl
    | m :: p :: digits =>
      rw [isMarker, String.toList_ofList] at h
      refine if_neg ?_
      rintro ⟨rfl, rfl⟩
      cases d <;> simp [Dialect.marker] at h
  rw [renumberWord, hnone]

end Words

namespace Scan

variable {d : Dialect} {k : Nat}

/-- The word that is complete where the scan stands keeps its characters, unless it marks a
parameter. -/
lemma renumberWord_held {st : Scan} (h : ∀ t ∈ st.pending, t.marker? d = none) :
    renumberWord d k st.held = st.held := by
  cases st with
  | word cs =>
    refine renumberWord_eq_self ?_
    have hword := h _ List.mem_cons_self
    change isMarker d (String.ofList cs) = false
    simpa [Token.marker?] using hword
  | _ => rfl

/-- The first character after a token is passed or held back. -/
lemma start_passed_held (c : Char) : (start d c).2.passed c ++ (start d c).2.held = [c] := by
  unfold start
  repeat' split
  all_goals rfl

/-- A character that belongs to a token is passed, or held back with those before it. -/
lemma continued_passed_held {c : Char} {st next : Scan} (h : st.continued? d c = some next) :
    next.passed c ++ next.held = st.held ++ [c] := by
  cases st with
  | gap => cases h
  | word cs =>
    obtain ⟨-, h⟩ := Option.ite_none_right_eq_some.mp h
    cases h
    rfl
  | symbol cs =>
    obtain ⟨-, h⟩ := Option.ite_none_right_eq_some.mp h
    cases h
    rfl
  | name cs =>
    cases h
    split <;> rfl
  | nameEnd cs =>
    obtain ⟨-, h⟩ := Option.ite_none_right_eq_some.mp h
    cases h
    rfl
  | literal cs =>
    cases h
    split <;> rfl
  | literalEnd cs =>
    obtain ⟨-, h⟩ := Option.ite_none_right_eq_some.mp h
    cases h
    rfl

/-- A character that does not belong to the token before it begins anew, after that token. -/
lemma written_of_stops {c : Char} {st : Scan} (hc : st.continued? d c = none) :
    (st.step d c).2 = (start d c).2 ∧
      st.written d k c = renumberWord d k st.held ++ (start d c).2.passed c := by
  have hstep : (st.step d c).2 = (start d c).2 := by rw [step, hc]
  refine ⟨hstep, ?_⟩
  rw [written, hc, hstep]
  rfl

/-- At a step where no mark of a parameter ends, each character is written or held back as it is. -/
lemma written_append_held {c : Char} {st : Scan}
    (h : ∀ t ∈ (st.step d c).1, t.marker? d = none) :
    st.written d k c ++ (st.step d c).2.held = st.held ++ [c] := by
  unfold written step at *
  cases hc : st.continued? d c with
  | some next => simpa [hc] using continued_passed_held hc
  | none =>
    simp only [hc, List.forall_mem_append] at h
    simp only [Option.isNone_none, if_true, renumberWord_held h.1, List.append_assoc,
      start_passed_held]

/-- A text without marks of parameters stays as it is. -/
lemma rewrite_eq_self {cs : List Char} {st : Scan}
    (h : ∀ t ∈ (steps d cs st).1 ++ (steps d cs st).2.pending, t.marker? d = none) :
    rewrite d k cs st = st.held ++ cs := by
  induction cs generalizing st with
  | nil =>
    rw [rewrite, List.append_nil]
    exact renumberWord_held h
  | cons c cs ih =>
    rw [steps, List.append_assoc, List.forall_mem_append] at h
    rw [rewrite, ih h.2, ← List.append_assoc, written_append_held h.1, List.append_assoc]
    rfl

/-- A text may be renumbered in two parts where the second begins with a character that does not
belong to the token before it. -/
lemma rewrite_append {xs rest : List Char} {st : Scan} (hs : (steps d xs st).2.Stops d rest) :
    rewrite d k (xs ++ rest) st = rewrite d k xs st ++ rewrite d k rest .gap := by
  induction xs generalizing st with
  | nil =>
    -- The word that is held back at the cut is written by the first part at its end, and otherwise
    -- at the first character of the second part.
    cases rest with
    | nil => exact (List.append_nil _).symm
    | cons c cs =>
      have hc : st.continued? d c = none := hs c rfl
      have hgap : gap.continued? d c = none := rfl
      obtain ⟨hstep, hwritten⟩ := written_of_stops (k := k) hc
      obtain ⟨hstep', hwritten'⟩ := written_of_stops (k := k) hgap
      have hnone : renumberWord d k gap.held = [] := rfl
      rw [List.nil_append, rewrite, rewrite, rewrite, hwritten, hstep, hwritten', hstep', hnone,
        List.append_assoc, List.nil_append]
  | cons c cs ih =>
    rw [List.cons_append, rewrite, rewrite, ih hs, List.append_assoc]

/-- A text without marks of parameters stays as it is before another that may be cut from it. -/
lemma rewrite_unmarked {xs rest : List Char}
    (h : ∀ t ∈ (steps d xs .gap).1 ++ (steps d xs .gap).2.pending, t.marker? d = none)
    (hs : (steps d xs .gap).2.Stops d rest) :
    rewrite d k (xs ++ rest) .gap = xs ++ rewrite d k rest .gap := by
  rw [rewrite_append hs, rewrite_eq_self h]
  rfl

/-- A word is renumbered when it is complete. -/
lemma rewrite_word {cs : List Char} (h : ∀ c ∈ cs, isWordChar c = true) (w : List Char) :
    rewrite d k cs (word w) = renumberWord d k (w ++ cs) := by
  induction cs generalizing w with
  | nil => rw [rewrite, List.append_nil, held]
  | cons c cs ih =>
    obtain ⟨hc, hcs⟩ := List.forall_mem_cons.mp h
    have hnext : (word w).continued? d c = some (word (w ++ [c])) := if_pos hc
    have hstep : ((word w).step d c).2 = word (w ++ [c]) := by rw [step, hnext]
    have hwritten : (word w).written d k c = [] := by
      rw [written, hnext, hstep]
      rfl
    rw [rewrite, hwritten, hstep, ih hcs, List.append_assoc, List.nil_append]
    rfl

/-- A text that is one word is renumbered as a word. -/
lemma rewrite_plain {c : Char} {cs : List Char} (hstart : start d c = ([], word [c]))
    (h : ∀ x ∈ cs, isWordChar x = true) :
    rewrite d k (c :: cs) .gap = renumberWord d k (c :: cs) := by
  have hgap : gap.continued? d c = none := rfl
  obtain ⟨hstep, hwritten⟩ := written_of_stops (k := k) hgap
  rw [rewrite, hwritten, hstep, hstart, rewrite_word h]
  rfl

end Scan

end TableQuery.Sql
