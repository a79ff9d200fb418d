import TableQuery.Proofs.Pattern.Matching
import TableQuery.Sql.Call

/-!
# Escapes in patterns

A text with a backslash before each wildcard is read as characters that stand for themselves, if the
backslash is the escape character (`readPattern_escaped`).  Without one it is so if the text has no
wildcards at all, and no backslash.

A server escapes a text by replacing one wildcard after another in all of it (`replaceAll`).  This
gives the same as escaping in one pass (`escape_stepwise`), since the backslash comes first: the
backslashes that later replacements put in are not escaped again.
-/

namespace TableQuery.Sql

open Call (escaped wildcards)

/-- A text in which what begins with `old` is replaced, from left to right; the first `skipped`
characters belong to what has just been replaced.  The empty text is never replaced. -/
def replaceFrom (old new : List Char) (skipped : ℕ) : List Char → List Char
  | [] => []
  | c :: cs =>
    match skipped with
    | n + 1 => replaceFrom old new n cs
    | 0 =>
      if old ≠ [] ∧ old.isPrefixOf (c :: cs) = true then
        new ++ replaceFrom old new (old.length - 1) cs
      else c :: replaceFrom old new 0 cs

/-- A text in which all occurrences of `old` are replaced. -/
def replaceAll (old new text : List Char) : List Char := replaceFrom old new 0 text

/-- The characters of a text with a backslash before each of some characters. -/
def escapeIn (special text : List Char) : List Char :=
  text.flatMap fun c => if c ∈ special then ['\\', c] else [c]

section Replacement

variable {c : Char} {special text : List Char}

/-- A replacement of one character happens at each place on its own. -/
lemma replaceAll_char (c : Char) (new text : List Char) :
    replaceAll [c] new text = text.flatMap fun x => if x = c then new else [x] := by
  unfold replaceAll
  induction text with
  | nil => rfl
  | cons x text ih =>
    rw [replaceFrom, List.flatMap_cons, ← ih]
    by_cases hx : x = c
    case pos =>
      subst hx
      simp
    case neg =>
      have hother : ¬ ([c] ≠ [] ∧ [c].isPrefixOf (x :: text) = true) := by
        simp [List.isPrefixOf, Ne.symm hx]
      rw [if_neg hother, if_neg hx]
      rfl

/-- Escaping a further character does not change the escapes there are, unless it is the
backslash. -/
lemma replaceAll_escapeIn (hspecial : c ∉ special) (hc : special = [] ∨ c ≠ '\\') :
    replaceAll [c] ['\\', c] (escapeIn special text) = escapeIn (special ++ [c]) text := by
  rw [replaceAll_char, escapeIn, escapeIn, List.flatMap_assoc]
  refine List.flatMap_congr fun x _ => ?_
  by_cases hx : x ∈ special
  case pos =>
    -- Neither an escaped character nor the backslash before it is the one that is replaced now.
    have hne : x ≠ c := fun h => hspecial (h ▸ hx)
    obtain rfl | hbackslash := hc
    · cases hx
    · simp [hx, hne, hbackslash.symm]
  case neg =>
    by_cases hxc : x = c
    · subst hxc
      simp [hx]
    · simp [hx, hxc]

/-- Further characters are escaped one after another. -/
lemma foldl_replaceAll {cs : List Char} (hdistinct : (special ++ cs).Nodup)
    (hbackslash : '\\' ∉ cs) :
    cs.foldl (fun text c => replaceAll [c] ['\\', c] text) (escapeIn special text) =
      escapeIn (special ++ cs) text := by
  -- After each step, what has come so far is escaped as in one pass.
  induction cs generalizing special with
  | nil => rw [List.append_nil, List.foldl_nil]
  | cons c cs ih =>
    rw [List.append_cons] at hdistinct
    have hc : c ∉ special :=
      fun h => (List.nodup_append.mp (List.nodup_append.mp hdistinct).1).2.2 c h c
        List.mem_cons_self rfl
    rw [List.mem_cons, not_or] at hbackslash
    rw [List.foldl_cons, replaceAll_escapeIn hc (.inr (Ne.symm hbackslash.1)),
      ih hdistinct hbackslash.2, ← List.append_cons]

variable {d : Dialect}

/-- The backslash is the first of the wildcards, and none occurs twice. -/
lemma wildcards_cons (d : Dialect) : ∃ cs, wildcards d = '\\' :: cs ∧ ('\\' :: cs).Nodup := by
  cases d <;> exact ⟨_, rfl, by decide⟩

/-- A text is escaped at the wildcards of the dialect. -/
lemma escaped_eq (d : Dialect) (text : List Char) :
    escaped d text = escapeIn (wildcards d) text := by
  induction text with
  | nil => rfl
  | cons c cs ih =>
    have hcons : escapeIn (wildcards d) (c :: cs) =
        (if c ∈ wildcards d then ['\\', c] else [c]) ++ escapeIn (wildcards d) cs :=
      List.flatMap_cons
    rw [escaped, ih, hcons]
    by_cases hc : c ∈ wildcards d
    · rw [if_pos hc, if_pos hc]
      rfl
    · rw [if_neg hc, if_neg hc]
      rfl

/-- Replacing the wildcards one after another escapes a text as one pass does. -/
theorem escape_stepwise (d : Dialect) (text : List Char) :
    (wildcards d).foldl (fun text c => replaceAll [c] ['\\', c] text) text = escaped d text := by
  obtain ⟨cs, hcs, hdistinct⟩ := wildcards_cons d
  have hstart : escapeIn [] text = text := by simp [escapeIn]
  have hfirst : replaceAll ['\\'] ['\\', '\\'] text = escapeIn ['\\'] text := by
    have hstep : replaceAll ['\\'] ['\\', '\\'] (escapeIn [] text) = escapeIn ([] ++ ['\\']) text :=
      replaceAll_escapeIn nofun (.inl rfl)
    rwa [hstart] at hstep
  rw [escaped_eq, hcs, List.foldl_cons, hfirst,
    foldl_replaceAll hdistinct (List.nodup_cons.mp hdistinct).1]
  rfl

-- With the backslash last, the escape of a percent sign would be undone.
example : replaceAll ['\\'] ['\\', '\\'] (replaceAll ['%'] ['\\', '%'] ['%']) =
    ['\\', '\\', '%'] := rfl

end Replacement

section Reading

variable {d : Dialect} {escape : Option Char} {s : List Char}

/-- The wildcards of a dialect. -/
lemma mem_wildcards {c : Char} :
    c ∈ wildcards d ↔ c = '\\' ∨ c = '%' ∨ c = '_' ∨ c = '[' ∧ d.isSqlServer = true := by
  cases d <;> simp [wildcards, Dialect.isSqlServer]

/-- Escapes do not make a text shorter. -/
lemma length_le_escaped (d : Dialect) (s : List Char) : s.length ≤ (escaped d s).length := by
  induction s with
  | nil => exact le_rfl
  | cons c cs ih =>
    rw [escaped]
    split <;> simp only [List.length_cons] <;> omega

/-- A text that needs no escapes has no wildcards. -/
lemma notMem_wildcards (h : escaped d s = s) : ∀ c ∈ s, c ∉ wildcards d := by
  induction s with
  | nil => nofun
  | cons c cs ih =>
    rw [escaped] at h
    split at h
    case isTrue hc =>
      have hlength := congrArg List.length (List.cons.inj h).2
      have hle := length_le_escaped d cs
      rw [List.length_cons] at hlength
      omega
    case isFalse hc => exact List.forall_mem_cons.mpr ⟨hc, ih (List.cons.inj h).2⟩

/-- A character that is no wildcard stands for itself. -/
lemma readPattern_char {c : Char} (hc : c ∉ wildcards d) (hescape : escape ≠ some c)
    (cs : List Char) :
    readPattern d escape .between (c :: cs) =
      (readPattern d escape .between cs).map (.char c :: ·) := by
  rw [mem_wildcards, not_or, not_or, not_or] at hc
  rw [readPattern, if_neg hescape, if_neg hc.2.1, if_neg hc.2.2.1, if_neg hc.2.2.2]

/-- A text with escapes is read as characters that stand for themselves.  If nothing is escaped, the
backslash need not be the escape character. -/
theorem readPattern_escaped
    (hescape : escape = some '\\' ∨ escape = none ∧ ∀ c ∈ s, c ∉ wildcards d) (rest : List Char) :
    readPattern d escape .between (escaped d s ++ rest) =
      (readPattern d escape .between rest).map (s.map .char ++ ·) := by
  induction s with
  | nil => simp [escaped]
  | cons c cs ih =>
    have htail : escape = some '\\' ∨ escape = none ∧ ∀ c ∈ cs, c ∉ wildcards d :=
      hescape.imp_right fun h => ⟨h.1, (List.forall_mem_cons.mp h.2).2⟩
    rw [escaped]
    split
    case isTrue hc =>
      obtain rfl | ⟨-, hplain⟩ := hescape
      · rw [List.cons_append, readPattern, if_pos rfl, List.cons_append, readPattern, ih htail,
          Option.map_map]
        rfl
      · exact absurd hc (hplain c List.mem_cons_self)
    case isFalse hc =>
      have hne : escape ≠ some c := by
        obtain rfl | ⟨rfl, -⟩ := hescape
        · exact fun h => hc (mem_wildcards.mpr (.inl (Option.some.inj h).symm))
        · nofun
      rw [List.cons_append, readPattern_char hc hne, ih htail, Option.map_map]
      rfl

end Reading

end TableQuery.Sql
