import Mathlib.Algebra.Ring.Nat
import TableQuery.Proofs.Conversion.Blanks

/-!
# Identifiers read back

The text of an identifier spells it in five groups of digits (`spelled_text`): the digits are cut
into groups without losing any.  Any spelling of it is read as that identifier (`read_spelled`): no
group has a hyphen in it, so that the groups are found again between the hyphens.
-/

namespace TableQuery.Guid

open Text

section Chunks

variable {α : Type} {n : Nat} {ns : List Nat}

/-- Behind the first chunk are as many elements as the other chunks have. -/
lemma length_drop_of_sum {xs : List α} (h : xs.length = (n :: ns).sum) :
    (xs.drop n).length = ns.sum := by
  rw [List.length_drop, h, List.sum_cons, Nat.add_sub_cancel_left]

/-- The chunks of a list are all of it. -/
lemma flatten_chunks {xs : List α} (h : xs.length = ns.sum) : (chunks ns xs).flatten = xs := by
  induction ns generalizing xs with
  | nil => exact (List.eq_nil_of_length_eq_zero h).symm
  | cons n ns ih =>
    rw [chunks, List.flatten_cons, ih (length_drop_of_sum h), List.take_append_drop]

/-- The chunks of a list have the lengths that are asked for. -/
lemma map_length_chunks {xs : List α} (h : xs.length = ns.sum) :
    (chunks ns xs).map List.length = ns := by
  induction ns generalizing xs with
  | nil => rfl
  | cons n ns ih =>
    have hfirst : (xs.take n).length = n := by
      rw [List.length_take, h, List.sum_cons, Nat.min_eq_left (Nat.le_add_right ..)]
    rw [chunks, List.map_cons, hfirst, ih (length_drop_of_sum h)]

/-- What is in lists with a separator between them is the separator or in one of the lists. -/
lemma mem_of_mem_intercalate {sep x : α} {ls : List (List α)} (h : x ∈ [sep].intercalate ls) :
    x = sep ∨ ∃ l ∈ ls, x ∈ l := by
  induction ls with
  | nil => cases h
  | cons l ls ih =>
    cases ls with
    | nil =>
      rw [List.intercalate_singleton] at h
      exact .inr ⟨l, List.mem_cons_self, h⟩
    | cons m ls =>
      rw [List.intercalate_cons_cons, List.append_assoc, List.mem_append, List.mem_append,
        List.mem_singleton] at h
      rcases h with h | rfl | h
      · exact .inr ⟨l, List.mem_cons_self, h⟩
      · exact .inl rfl
      · exact (ih h).imp_right fun ⟨k, hk, hx⟩ => ⟨k, List.mem_cons_of_mem l hk, hx⟩

end Chunks

/-- Characters that spell an identifier: its digits, of either case, in groups joined by hyphens. -/
inductive Spelled (g : Guid) : List Char → Prop
  | mk {groups : List (List Char)} : groups.map List.length = groupLengths →
    groups.flatten.mapM hexValue? = some g.digits → Spelled g (['-'].intercalate groups)

section Digits

variable {ds : List (Fin 16)} {cs : List Char} {c : Char} {d : Fin 16}

/-- Digits are found again from their characters. -/
lemma mapM_hexValue? : (ds.map hexChar).mapM hexValue? = some ds := by
  induction ds with
  | nil => rfl
  | cons d ds ih =>
    rw [List.map_cons, List.mapM_cons, hexValue?_hexChar, ih]
    rfl

/-- Every character of a text of digits is one. -/
lemma isSome_of_mem (h : cs.mapM hexValue? = some ds) (hc : c ∈ cs) :
    (hexValue? c).isSome = true := by
  induction cs generalizing ds with
  | nil => cases hc
  | cons c' cs ih =>
    rw [List.mapM_cons] at h
    obtain ⟨d, hd, h⟩ := Option.bind_eq_some_iff.mp h
    obtain ⟨ds', hds', -⟩ := Option.bind_eq_some_iff.mp h
    rcases List.mem_cons.mp hc with rfl | hc
    · rw [hd]
      rfl
    · exact ih hds' hc

/-- A text with a hyphen in it does not consist of digits. -/
lemma ofDigits?_eq_none (h : '-' ∈ cs) : ofDigits? cs = none := by
  cases hdigits : cs.mapM hexValue? with
  | none =>
    rw [ofDigits?, hdigits]
    rfl
  | some ds => cases isSome_of_mem hdigits h

/-- What the reader looks for besides digits is told apart from every digit. -/
lemma ne_of_hexValue? (h : (hexValue? c).isSome = true) :
    c ≠ '-' ∧ c ≠ '\x7b' ∧ c.toLower ≠ 'u' ∧ isBlank c = false := by
  have hlt : c.toNat < 128 := by
    unfold hexValue? at h
    by_contra hge
    rw [if_neg (by omega), if_neg (by omega), if_neg (by omega)] at h
    cases h
  have hall : ∀ n < 128, (hexValue? (.ofNat n)).isSome = true → Char.ofNat n ≠ '-' ∧
      Char.ofNat n ≠ '\x7b' ∧ (Char.ofNat n).toLower ≠ 'u' ∧ isBlank (.ofNat n) = false := by
    decide
  have hchar := hall c.toNat hlt
  rw [Char.ofNat_toNat] at hchar
  exact hchar h

end Digits

/-- The text of an identifier spells it. -/
theorem spelled_text (g : Guid) : g.Spelled g.text := by
  have hlength : (g.digits.map hexChar).length = groupLengths.sum := by
    rw [List.length_map, g.length_digits]
    rfl
  refine .mk (map_length_chunks hlength) ?_
  rw [flatten_chunks hlength, mapM_hexValue?]

namespace Spelled

variable {g : Guid} {cs : List Char}

/-- A spelling begins with a digit, and has a hyphen further on. -/
lemma exists_cons (h : g.Spelled cs) :
    ∃ c rest, cs = c :: rest ∧ (hexValue? c).isSome = true ∧ '-' ∈ rest := by
  obtain @⟨groups, hlengths, hdigits⟩ := h
  match groups with
  | [] => cases hlengths
  | [] :: _ => cases hlengths
  | [_ :: _] => simp [groupLengths] at hlengths
  | (c :: l) :: m :: ms =>
    refine ⟨c, l ++ '-' :: ['-'].intercalate (m :: ms), ?_, ?_, ?_⟩
    · rw [List.intercalate_cons_cons, List.append_assoc]
      rfl
    · exact isSome_of_mem hdigits List.mem_cons_self
    · exact List.mem_append_right l List.mem_cons_self

/-- Nothing stands around the digits. -/
lemma unwrap_eq (h : g.Spelled cs) : unwrap cs = (cs, 0) := by
  obtain ⟨c, rest, rfl, hc, -⟩ := h.exists_cons
  obtain ⟨-, hbrace, hscheme, -⟩ := ne_of_hexValue? hc
  rw [unwrap]
  · exact if_neg fun heq => hscheme (List.cons.inj heq).1
  · exact fun _ heq => hbrace (List.cons.inj heq).1

/-- The groups are found again between the hyphens. -/
lemma ofGroups?_eq (h : g.Spelled cs) : ofGroups? cs = some g := by
  obtain @⟨groups, hlengths, hdigits⟩ := h
  have hgroups : Guid.groups (['-'].intercalate groups) = groups := by
    apply List.splitOn_intercalate
    · intro l hl hhyphen
      exact (ne_of_hexValue? (isSome_of_mem hdigits (List.mem_flatten_of_mem hl hhyphen))).1 rfl
    · rintro rfl
      cases hlengths
  rw [ofGroups?, hgroups, if_pos hlengths, ofDigits?, hdigits]
  exact dif_pos g.length_digits

/-- A spelling has no white space in it. -/
lemma bounded (h : g.Spelled cs) : Bounded cs := by
  obtain ⟨-, hdigits⟩ := h
  refine .of_forall fun c hc => ?_
  rcases mem_of_mem_intercalate hc with rfl | ⟨l, hl, hc⟩
  · rfl
  · exact (ne_of_hexValue? (isSome_of_mem hdigits (List.mem_flatten_of_mem hl hc))).2.2.2

end Spelled

/-- Every spelling of an identifier is read as it. -/
theorem read_spelled {g : Guid} {cs : List Char} (h : g.Spelled cs) : read cs = .ok g := by
  have hhyphen : '-' ∈ cs := by
    obtain ⟨c, rest, rfl, -, hrest⟩ := h.exists_cons
    exact List.mem_cons_of_mem c hrest
  rw [read, ofDigits?_eq_none hhyphen, h.unwrap_eq, h.ofGroups?_eq]
  rfl

end TableQuery.Guid
