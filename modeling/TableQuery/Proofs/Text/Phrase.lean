import Mathlib.Algebra.Ring.Int.Defs
import TableQuery.Proofs.Text.Token
import TableQuery.Value

/-!
# Phrases

A text as its parentheses divide it.  What stands between two parentheses is one phrase, together
with the word before it if that is the name of a function; a column is one phrase with its
qualifier; and the mark of a parameter is read as the value bound to it.

Tokens are put in place from the last to the first, so that a word or a name is read when what
follows it is known (`place`).  The phrases of an open parenthesis are a frame of their own.  A text
has phrases only if its parentheses match (`balanced_of_phrases?`).
-/

namespace TableQuery.Sql

/-- A phrase of a text. -/
inductive Phrase where
  /-- A word. -/
  | word (s : String)
  /-- A sign made of operator characters. -/
  | symbol (s : String)
  /-- A mark other than a parenthesis. -/
  | mark (c : Char)
  /-- A text between apostrophes. -/
  | literal (s : String)
  /-- The value of a parameter. -/
  | value (v : Value)
  /-- A quoted identifier, and the one before it if a point stands between them. -/
  | column (qualifier : Option String) (name : String)
  /-- A word and what stands in the parentheses behind it. -/
  | call (f : String) (inside : List Phrase)
  /-- What stands in parentheses. -/
  | group (inside : List Phrase)

/-- The words that parentheses may follow without being the arguments of a call. -/
def keywords : List String :=
  ["SELECT", "DISTINCT", "TOP", "FROM", "AS", "WHERE", "AND", "BY", "limit", "offset", "OFFSET",
    "NEXT", "and", "or", "not", "IN", "LIKE", "ILIKE", "ESCAPE", "WHEN", "THEN", "ELSE", "zone"]

/-- The phrases after a place: those in its own parentheses, and those around them, innermost
first. -/
structure Frames where
  here : List Phrase
  around : List (List Phrase)

/-- The frames with one more phrase in front. -/
def Frames.push (fs : Frames) (p : Phrase) : Frames := { fs with here := p :: fs.here }

/-- A word in front of some phrases. -/
def joinWord (w : String) : List Phrase → List Phrase
  | .group inside :: rest =>
    if w ∈ keywords then .word w :: .group inside :: rest else .call w inside :: rest
  | rest => .word w :: rest

/-- A quoted identifier in front of some phrases. -/
def joinName (name : String) : List Phrase → List Phrase
  | .mark '.' :: .column none column :: rest => .column (some name) column :: rest
  | rest => .column none name :: rest

/-- A token put in front, where `bound` gives the values of parameters. -/
def place (d : Dialect) (bound : String → Option Value) (t : Token) (fs : Frames) :
    Option Frames :=
  match t with
  | .word w =>
    if isMarker d w then (bound w).map fun v => fs.push (.value v)
    else some { fs with here := joinWord w fs.here }
  | .symbol s => some (fs.push (.symbol s))
  | .literal s => some (fs.push (.literal s))
  | .name name => some { fs with here := joinName name fs.here }
  | .mark c =>
    if c = ')' then some ⟨[], fs.here :: fs.around⟩
    else if c = '(' then
      match fs.around with
      | [] => none
      | outer :: around => some ⟨.group fs.here :: outer, around⟩
    else some (fs.push (.mark c))

/-- Several tokens put in their places. -/
def arrange (d : Dialect) (bound : String → Option Value) : List Token → Option Frames
  | [] => some ⟨[], []⟩
  | t :: ts => (arrange d bound ts).bind (place d bound t)

/-- The phrases of a text, if all of it can be read, every parenthesis has its counterpart, and
every parameter a value. -/
def phrases? (d : Dialect) (bound : String → Option Value) (text : String) :
    Option (List Phrase) := do
  let fs ← arrange d bound (← tokens? d text)
  if fs.around.isEmpty then some fs.here else none

/-- How many parentheses a token opens, less those it closes. -/
def Token.depth : Token → Int
  | .mark '(' => 1
  | .mark ')' => -1
  | _ => 0

/-- How many parentheses are open after some tokens. -/
def depth (ts : List Token) : Int := (ts.map Token.depth).sum

/-- Whether parentheses match: never are more closed than were opened, and in the end none is
open. -/
def Balanced (ts : List Token) : Prop := (∀ us vs, ts = us ++ vs → 0 ≤ depth us) ∧ depth ts = 0

section Balance

variable {d : Dialect} {bound : String → Option Value}

/-- A token in front changes the number of frames by what it opens and closes. -/
lemma length_around_place {t : Token} {fs fs' : Frames} (h : place d bound t fs = some fs') :
    (fs'.around.length : Int) = fs.around.length - t.depth := by
  cases t with
  | word w =>
    simp only [place] at h
    split at h
    · obtain ⟨v, -, rfl⟩ := Option.map_eq_some_iff.mp h
      simp [Frames.push, Token.depth]
    · cases h
      simp [Token.depth]
  | symbol s =>
    cases h
    simp [Frames.push, Token.depth]
  | literal s =>
    cases h
    simp [Frames.push, Token.depth]
  | name s =>
    cases h
    simp [Token.depth]
  | mark c =>
    simp only [place] at h
    split at h
    case isTrue hc =>
      cases h
      subst hc
      simp [Token.depth]
    case isFalse hc =>
      split at h
      -- Tokens are placed from the end, so it is the opening bracket that closes a frame.
      case isTrue ho =>
        subst ho
        cases ha : fs.around with
        | nil =>
          rw [ha] at h
          cases h
        | cons outer around =>
          rw [ha] at h
          cases h
          simp [Token.depth]
      case isFalse ho =>
        cases h
        have hd : (Token.mark c).depth = 0 := by
          unfold Token.depth
          split <;> simp_all
        simp [Frames.push, hd]

/-- The frames after some tokens count the parentheses that they close without opening them. -/
lemma depth_of_arrange {ts : List Token} {fs : Frames} (h : arrange d bound ts = some fs) :
    depth ts = -fs.around.length := by
  induction ts generalizing fs with
  | nil =>
    cases h
    rfl
  | cons t ts ih =>
    obtain ⟨gs, hgs, hfs⟩ := Option.bind_eq_some_iff.mp h
    have hd := ih hgs
    have hl := length_around_place hfs
    simp only [depth, List.map_cons, List.sum_cons] at hd ⊢
    omega

/-- The last of some tokens can be put in their places alone. -/
lemma arrange_of_append {ts us : List Token} {fs : Frames}
    (h : arrange d bound (ts ++ us) = some fs) : ∃ gs, arrange d bound us = some gs := by
  induction ts generalizing fs with
  | nil => exact ⟨fs, h⟩
  | cons t ts ih =>
    obtain ⟨gs, hgs, -⟩ := Option.bind_eq_some_iff.mp h
    exact ih hgs

/-- The tokens of a text that has phrases. -/
lemma arrange_of_phrases? {text : String} {ps : List Phrase}
    (h : phrases? d bound text = some ps) :
    ∃ ts, tokens? d text = some ts ∧ arrange d bound ts = some ⟨ps, []⟩ := by
  obtain ⟨ts, hts, h⟩ := Option.bind_eq_some_iff.mp h
  obtain ⟨⟨here, around⟩, hfs, h⟩ := Option.bind_eq_some_iff.mp h
  refine ⟨ts, hts, ?_⟩
  cases around with
  | nil =>
    cases h
    exact hfs
  | cons outer around => cases h

/-- The parentheses of a text that has phrases match. -/
theorem balanced_of_phrases? {text : String} {ps : List Phrase}
    (h : phrases? d bound text = some ps) : ∃ ts, tokens? d text = some ts ∧ Balanced ts := by
  obtain ⟨ts, hts, ha⟩ := arrange_of_phrases? h
  have hall : depth ts = 0 := by
    rw [depth_of_arrange ha]
    rfl
  refine ⟨ts, hts, fun us vs he => ?_, hall⟩
  subst he
  obtain ⟨gs, hgs⟩ := arrange_of_append ha
  have hv := depth_of_arrange hgs
  have hsum : depth (us ++ vs) = depth us + depth vs := by
    simp [depth, List.map_append, List.sum_append]
  omega

end Balance

end TableQuery.Sql
