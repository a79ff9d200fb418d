import TableQuery.Proofs.Text.Phrase

/-!
# Tokens that add phrases

How the phrases of a sequence of tokens follow from those of its parts.  Most tokens add phrases of
their own in front of whatever follows.  Not all do: a group in front of which a word is put could
become the arguments of a call, and a point in front of which a name is put the end of a qualifier.
So tokens add phrases in front of what joins nothing (`Adds`), and some of them in front of anything
(`Settles`).
-/

namespace TableQuery.Sql

/-- Whether a phrase may join a word or a name in front of it. -/
def Phrase.clings : Phrase → Bool
  | .group _ => true
  | .mark c => c == '.'
  | _ => false

/-- Whether the first of some phrases joins nothing in front of it. -/
def Quiet (ps : List Phrase) : Prop := ∀ p ∈ ps.head?, p.clings = false

/-- Tokens add phrases in front of what joins nothing. -/
def Adds (d : Dialect) (bound : String → Option Value) (ts : List Token) (ps : List Phrase) :
    Prop :=
  ∀ rest here around, arrange d bound rest = some ⟨here, around⟩ → Quiet here →
    arrange d bound (ts ++ rest) = some ⟨ps ++ here, around⟩

/-- Tokens add phrases in front of anything. -/
def Settles (d : Dialect) (bound : String → Option Value) (ts : List Token) (ps : List Phrase) :
    Prop :=
  ∀ rest here around, arrange d bound rest = some ⟨here, around⟩ →
    arrange d bound (ts ++ rest) = some ⟨ps ++ here, around⟩

/-- The phrase that a token is by itself. -/
def Token.plain? (d : Dialect) : Token → Option Phrase
  | .word w => if isMarker d w then none else some (.word w)
  | .symbol s => some (.symbol s)
  | .mark c => if c = ',' then some (.mark c) else none
  | _ => none

/-- Whether anything may follow a token. -/
def Token.settles : Token → Bool
  | .word w => keywords.contains w
  | .symbol _ | .mark _ => true
  | _ => false

/-- Whether anything may follow some tokens. -/
def endsSettled (ts : List Token) : Bool := ts.getLast?.all Token.settles

section Tokens

variable {d : Dialect} {bound : String → Option Value} {ts us : List Token} {ps qs : List Phrase}

/-- Phrases before others join nothing if the first of all does not. -/
lemma Quiet.append (hp : Quiet ps) (hq : Quiet qs) : Quiet (ps ++ qs) := by
  cases ps with
  | nil => exact hq
  | cons p ps => exact hp

/-- What adds phrases in front of anything does so in front of what joins nothing. -/
lemma Settles.adds (h : Settles d bound ts ps) : Adds d bound ts ps :=
  fun rest here around ha _ => h rest here around ha

/-- No tokens settle as no phrases. -/
lemma Settles.nil : Settles d bound [] [] := fun _ _ _ ha => ha

/-- Tokens after others add their phrases after theirs, if these phrases are quiet. -/
lemma Adds.append (ht : Adds d bound ts ps) (hu : Adds d bound us qs) (hq : Quiet qs) :
    Adds d bound (ts ++ us) (ps ++ qs) := by
  intro rest here around ha hh
  rw [List.append_assoc, List.append_assoc]
  exact ht _ _ _ (hu _ _ _ ha hh) (hq.append hh)

/-- Tokens after ones that settle add their phrases after theirs. -/
lemma Settles.append_adds (ht : Settles d bound ts ps) (hu : Adds d bound us qs) :
    Adds d bound (ts ++ us) (ps ++ qs) := by
  intro rest here around ha hh
  rw [List.append_assoc, List.append_assoc]
  exact ht _ _ _ (hu _ _ _ ha hh)

/-- A word joins no quiet phrases. -/
lemma joinWord_of_quiet {w : String} {here : List Phrase} (h : Quiet here) :
    joinWord w here = .word w :: here := by
  cases here with
  | nil => rfl
  | cons p rest =>
    cases p with
    | group inside => exact absurd (h _ rfl) (by simp [Phrase.clings])
    | _ => rfl

/-- A keyword joins no phrases. -/
lemma joinWord_of_keyword {w : String} {here : List Phrase} (h : w ∈ keywords) :
    joinWord w here = .word w :: here := by
  cases here with
  | nil => rfl
  | cons p rest =>
    cases p with
    | group inside => simp [joinWord, h]
    | _ => rfl

/-- A name joins no quiet phrases. -/
lemma joinName_of_quiet {name : String} {here : List Phrase} (h : Quiet here) :
    joinName name here = .column none name :: here := by
  cases here with
  | nil => rfl
  | cons p rest =>
    cases p with
    | mark c =>
      have hc : c ≠ '.' := by simpa [Phrase.clings] using h _ rfl
      unfold joinName
      split
      case h_1 heq =>
        cases heq
        exact absurd rfl hc
      case h_2 => rfl
    | _ => rfl

/-- The tokens that stand for a phrase each. -/
lemma Token.plain?_eq_some {t : Token} {p : Phrase} (h : t.plain? d = some p) :
    (∃ w, t = .word w ∧ isMarker d w = false ∧ p = .word w) ∨
      (∃ s, t = .symbol s ∧ p = .symbol s) ∨ (t = .mark ',' ∧ p = .mark ',') := by
  cases t with
  | word w =>
    simp only [Token.plain?] at h
    split at h
    case isTrue => cases h
    case isFalse hm =>
      cases h
      exact .inl ⟨w, rfl, by simpa using hm, rfl⟩
  | symbol s =>
    cases h
    exact .inr (.inl ⟨s, rfl, rfl⟩)
  | name s => cases h
  | literal s => cases h
  | mark c =>
    simp only [Token.plain?] at h
    split at h
    case isTrue hc =>
      cases h
      subst hc
      exact .inr (.inr ⟨rfl, rfl⟩)
    case isFalse => cases h

/-- A token that stands for a phrase adds it. -/
lemma Adds.plain {t : Token} {p : Phrase} (h : t.plain? d = some p) : Adds d bound [t] [p] := by
  intro rest here around ha hh
  rw [List.singleton_append, arrange, ha]
  obtain ⟨w, rfl, hm, rfl⟩ | ⟨s, rfl, rfl⟩ | ⟨rfl, rfl⟩ := Token.plain?_eq_some h
  · simp [place, hm, joinWord_of_quiet hh]
  · rfl
  · rfl

/-- A token that stands for a phrase settles as it, unless a parenthesis may join it. -/
lemma Settles.plain {t : Token} {p : Phrase} (h : t.plain? d = some p) (hs : t.settles = true) :
    Settles d bound [t] [p] := by
  intro rest here around ha
  rw [List.singleton_append, arrange, ha]
  obtain ⟨w, rfl, hm, rfl⟩ | ⟨s, rfl, rfl⟩ | ⟨rfl, rfl⟩ := Token.plain?_eq_some h
  · have hw : w ∈ keywords := by simpa [Token.settles] using hs
    simp [place, hm, joinWord_of_keyword hw]
  · rfl
  · rfl

/-- A token that is a phrase by itself is a phrase that joins nothing. -/
lemma Quiet.plain {t : Token} {p : Phrase} (h : t.plain? d = some p) : Quiet (p :: ps) := by
  intro q hq
  cases hq
  obtain ⟨w, rfl, hm, rfl⟩ | ⟨s, rfl, rfl⟩ | ⟨rfl, rfl⟩ := Token.plain?_eq_some h <;> rfl

/-- The first of some tokens that are phrases by themselves, and the others. -/
lemma plains_cons {t : Token} (h : (t :: ts).mapM (Token.plain? d) = some ps) :
    ∃ p qs, t.plain? d = some p ∧ ts.mapM (Token.plain? d) = some qs ∧ ps = p :: qs := by
  rw [List.mapM_cons] at h
  obtain ⟨p, hp, h⟩ := Option.bind_eq_some_iff.mp h
  obtain ⟨qs, hqs, h⟩ := Option.bind_eq_some_iff.mp h
  cases h
  exact ⟨p, qs, hp, hqs, rfl⟩

/-- The phrases of tokens that stand for one each are quiet. -/
lemma Quiet.plains (h : ts.mapM (Token.plain? d) = some ps) : Quiet ps := by
  cases ts with
  | nil =>
    cases h
    exact fun _ hq => by cases hq
  | cons t ts =>
    obtain ⟨p, qs, hp, -, rfl⟩ := plains_cons h
    exact Quiet.plain hp

/-- Tokens that stand for a phrase each add them. -/
lemma Adds.plains (h : ts.mapM (Token.plain? d) = some ps) : Adds d bound ts ps := by
  induction ts generalizing ps with
  | nil =>
    cases h
    exact Settles.nil.adds
  | cons t ts ih =>
    obtain ⟨p, qs, hp, hqs, rfl⟩ := plains_cons h
    exact (Adds.plain hp).append (ih hqs) (Quiet.plains hqs)

/-- Tokens that are phrases by themselves, where anything may follow the last. -/
lemma Settles.plains (h : ts.mapM (Token.plain? d) = some ps)
    (hs : endsSettled ts = true) : Settles d bound ts ps := by
  induction ts generalizing ps with
  | nil =>
    cases h
    exact Settles.nil
  | cons t ts ih =>
    obtain ⟨p, qs, hp, hqs, rfl⟩ := plains_cons h
    cases ts with
    | nil =>
      cases hqs
      exact Settles.plain hp hs
    | cons u us =>
      have htail : Settles d bound (u :: us) qs := ih hqs hs
      intro rest here around ha
      obtain ⟨q, qs', hq, -, rfl⟩ := plains_cons hqs
      exact Adds.plain hp _ _ _ (htail _ _ _ ha) (Quiet.plain hq)

/-- Parentheses around tokens make a group of their phrases. -/
lemma Adds.group (h : Adds d bound ts ps) :
    Settles d bound (.mark '(' :: (ts ++ [Token.mark ')'])) [.group ps] := by
  intro rest here around ha
  have hclose : arrange d bound (.mark ')' :: rest) = some ⟨[], here :: around⟩ := by
    rw [arrange, ha]
    rfl
  have hinside := h _ _ _ hclose (fun _ hq => by cases hq)
  rw [List.cons_append, List.append_assoc, List.singleton_append, arrange, hinside]
  simp [place]

/-- A word before parentheses makes a call of the phrases inside. -/
lemma Adds.call {f : String} (hf : f ∉ keywords) (hm : isMarker d f = false)
    (h : Adds d bound ts ps) :
    Settles d bound (.word f :: .mark '(' :: (ts ++ [Token.mark ')'])) [.call f ps] := by
  intro rest here around ha
  have hgroup := h.group _ _ _ ha
  rw [List.cons_append, arrange, hgroup]
  simp [place, hm, joinWord, hf]

end Tokens

end TableQuery.Sql
