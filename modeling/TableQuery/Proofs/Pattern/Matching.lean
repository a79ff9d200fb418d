import Mathlib.Data.List.Forall2
import Mathlib.Data.List.Infix
import Mathlib.Tactic.Lemma
import TableQuery.Sql.Dialect

/-!
# Patterns

What a server makes of the patterns of `LIKE`.  A pattern is read from left to right
(`readPattern`): a percent sign stands for any run of characters, an underscore for any one, and the
escape character, if there is one, makes the next character stand for itself; SQL Server has
character classes in brackets besides.  All other characters stand for themselves, up to what the
server takes for the same character.  A pattern that ends in the middle of an escape or of a class
has no meaning.

A pattern without wildcards before or after a run matches the texts that begin or end with it
(`matches_prefix`, `matches_suffix`).
-/

namespace TableQuery.Sql

/-- A part of a pattern. -/
inductive PatternItem where
  /-- Any run of characters. -/
  | run
  /-- Any one character. -/
  | one
  /-- A character that stands for itself. -/
  | char (c : Char)
  /-- One character of a class, given by what stands between the brackets. -/
  | among (body : List Char)

/-- What a server takes for the same character, in patterns and texts, and which characters it takes
for members of a class. -/
structure Collation where
  same : Char → Char → Bool
  member : List Char → Char → Bool

/-- Where the reading of a pattern stands: between two parts, behind the escape character, or inside
a class, after some characters of it. -/
inductive PatternPlace where
  | between
  | escaped
  | inside (body : List Char)

/-- The parts of a pattern. -/
def readPattern (d : Dialect) (escape : Option Char) :
    PatternPlace → List Char → Option (List PatternItem)
  | .between, [] => some []
  | .escaped, [] | .inside _, [] => none
  | .between, c :: cs =>
    if escape = some c then readPattern d escape .escaped cs
    else if c = '%' then (readPattern d escape .between cs).map (.run :: ·)
    else if c = '_' then (readPattern d escape .between cs).map (.one :: ·)
    else if c = '[' ∧ d.isSqlServer = true then readPattern d escape (.inside []) cs
    else (readPattern d escape .between cs).map (.char c :: ·)
  | .escaped, c :: cs => (readPattern d escape .between cs).map (.char c :: ·)
  | .inside body, c :: cs =>
    if c = ']' then (readPattern d escape .between cs).map (.among body :: ·)
    else readPattern d escape (.inside (body ++ [c])) cs

section Matching

variable (k : Collation)

/-- Whether a text matches the parts of a pattern.  A run may take any number of characters. -/
def matchesItems : List PatternItem → List Char → Bool
  | [], t => t.isEmpty
  | .run :: ps, t => t.tails.any (matchesItems ps)
  | .one :: ps, t =>
    match t with
    | [] => false
    | _ :: t => matchesItems ps t
  | .char c :: ps, t =>
    match t with
    | [] => false
    | x :: t => k.same c x && matchesItems ps t
  | .among body :: ps, t =>
    match t with
    | [] => false
    | x :: t => k.member body x && matchesItems ps t

/-- Whether two texts are the same, character by character. -/
def Collation.Same (s t : List Char) : Prop := List.Forall₂ (fun c x => k.same c x = true) s t

/-- Whether a text begins with what is the same as another text. -/
def Collation.HasPrefix (t s : List Char) : Prop := ∃ u, u <+: t ∧ k.Same s u

/-- Whether a text ends with what is the same as another text. -/
def Collation.HasSuffix (t s : List Char) : Prop := ∃ u, u <:+ t ∧ k.Same s u

variable {k} {s t : List Char} {ps : List PatternItem}

/-- A run matches any beginning of a text. -/
lemma matches_run :
    matchesItems k (.run :: ps) t = true ↔ ∃ u, u <:+ t ∧ matchesItems k ps u = true := by
  simp [matchesItems, List.any_eq_true]

/-- Characters that stand for themselves match what is the same. -/
lemma matches_chars : matchesItems k (s.map .char ++ ps) t = true ↔
    ∃ u v, t = u ++ v ∧ k.Same s u ∧ matchesItems k ps v = true := by
  -- The text is split behind as many characters as stand for themselves.
  induction s generalizing t with
  | nil =>
    constructor
    case mp => exact fun h => ⟨[], t, rfl, .nil, h⟩
    case mpr =>
      rintro ⟨u, v, rfl, hsame, h⟩
      cases hsame
      exact h
  | cons c s ih =>
    rw [List.map_cons, List.cons_append]
    cases t with
    | nil =>
      constructor
      case mp => nofun
      case mpr =>
        rintro ⟨u, v, htext, hsame, -⟩
        cases hsame
        cases htext
    | cons x t =>
      rw [matchesItems, Bool.and_eq_true, ih]
      constructor
      case mp =>
        rintro ⟨hx, u, v, rfl, hsame, h⟩
        exact ⟨x :: u, v, rfl, .cons hx hsame, h⟩
      case mpr =>
        rintro ⟨u, v, htext, hsame, h⟩
        cases hsame with
        | cons hx hsame =>
          cases htext
          exact ⟨hx, _, v, rfl, hsame, h⟩

/-- Characters before a run match the texts that begin with them. -/
theorem matches_prefix :
    matchesItems k (s.map .char ++ [PatternItem.run]) t = true ↔ k.HasPrefix t s := by
  rw [matches_chars]
  constructor
  case mp =>
    rintro ⟨u, v, rfl, hsame, -⟩
    exact ⟨u, List.prefix_append u v, hsame⟩
  case mpr =>
    rintro ⟨u, ⟨v, rfl⟩, hsame⟩
    exact ⟨u, v, rfl, hsame, matches_run.mpr ⟨[], List.nil_suffix, rfl⟩⟩

/-- Characters behind a run match the texts that end with them. -/
theorem matches_suffix : matchesItems k (.run :: s.map .char) t = true ↔ k.HasSuffix t s := by
  have hchars : ∀ u, matchesItems k (s.map .char) u = true ↔ k.Same s u := by
    intro u
    rw [← List.append_nil (s.map PatternItem.char), matches_chars]
    constructor
    case mp =>
      rintro ⟨v, w, rfl, hsame, hempty⟩
      rw [List.isEmpty_iff.mp hempty, List.append_nil]
      exact hsame
    case mpr => exact fun hsame => ⟨u, [], (List.append_nil u).symm, hsame, rfl⟩
  rw [matches_run]
  exact exists_congr fun u => and_congr_right fun _ => hchars u

end Matching

end TableQuery.Sql
