import Mathlib.Data.List.DropRight
import Mathlib.Tactic.Lemma
import TableQuery.Value.Cast

/-!
# White space around a text

White space put around a text is gone after trimming (`trim_surrounded`).  A text that begins and
ends with something else than white space stays as it is (`Bounded`).
-/

namespace TableQuery

section Ends

variable {p : Char → Bool} {cs : List Char}

/-- Nothing is dropped from the start of what begins with a character that is kept. -/
lemma dropWhile_of_head? (h : ∀ c ∈ cs.head?, p c = false) : cs.dropWhile p = cs := by
  cases cs with
  | nil => rfl
  | cons c cs => rw [List.dropWhile_cons_of_neg (by simp [h c rfl])]

/-- Nothing is dropped from the end of what ends in a character that is kept. -/
lemma rdropWhile_of_getLast? (h : ∀ c ∈ cs.getLast?, p c = false) : cs.rdropWhile p = cs := by
  rw [← List.head?_reverse] at h
  rw [List.rdropWhile, dropWhile_of_head? h, List.reverse_reverse]

end Ends

namespace Text

/-- The text consists of white space. -/
def Blank (s : String) : Prop := ∀ c ∈ s.toList, isBlank c = true

/-- That a text is blank can be decided. -/
instance (s : String) : Decidable (Blank s) :=
  decidable_of_iff (s.toList.all isBlank = true) List.all_eq_true

section Surrounded

variable {before after cs : List Char}

/-- Blanks before some characters are dropped with the blanks these begin with. -/
lemma dropBlanks_append (h : ∀ c ∈ before, isBlank c = true) :
    dropBlanks (before ++ cs) = dropBlanks cs := List.dropWhile_append_of_pos h

/-- Blanks after some characters are dropped with the blanks these end in. -/
lemma dropBlanksEnd_append (h : ∀ c ∈ after, isBlank c = true) :
    dropBlanksEnd (cs ++ after) = dropBlanksEnd cs := by
  rw [dropBlanksEnd, List.reverse_append, dropBlanks_append (by simpa using h), dropBlanksEnd]

/-- White space that follows is dropped from the end, also if nothing else is left. -/
lemma dropBlanksEnd_dropBlanks_append (h : ∀ c ∈ after, isBlank c = true) :
    dropBlanksEnd (dropBlanks (cs ++ after)) = dropBlanksEnd (dropBlanks cs) := by
  rw [dropBlanks, List.dropWhile_append]
  split
  case isTrue hcs =>
    have hcs : dropBlanks cs = [] := List.isEmpty_iff.mp hcs
    have hafter : dropBlanks after = dropBlanks (after ++ []) := by rw [List.append_nil]
    rw [hcs, ← dropBlanks, hafter, dropBlanks_append h]
    rfl
  case isFalse => exact dropBlanksEnd_append h

/-- White space around a text does not count. -/
theorem trim_surrounded {before s after : String} (hbefore : Blank before) (hafter : Blank after) :
    trim (before ++ s ++ after) = trim s := by
  rw [trim, String.toList_append, String.toList_append, List.append_assoc,
    dropBlanks_append hbefore, dropBlanksEnd_dropBlanks_append hafter, trim]

end Surrounded

/-- The characters begin and end with something else than white space, if there are any. -/
structure Bounded (cs : List Char) : Prop where
  start : ∀ c ∈ cs.head?, isBlank c = false
  stop : ∀ c ∈ cs.getLast?, isBlank c = false

namespace Bounded

variable {cs ds : List Char}

/-- Characters without a blank neither begin nor end in one. -/
lemma of_forall (h : ∀ c ∈ cs, isBlank c = false) : Bounded cs where
  start c hc := h c (List.mem_of_mem_head? hc)
  stop c hc := h c (List.mem_of_mem_getLast? hc)

/-- What stands between two bounded texts does not count. -/
lemma append (hcs : Bounded cs) (hds : Bounded ds) (between : List Char) (hcs' : cs ≠ [])
    (hds' : ds ≠ []) : Bounded (cs ++ (between ++ ds)) where
  start c hc := by
    obtain ⟨x, xs, rfl⟩ := List.exists_cons_of_ne_nil hcs'
    exact hcs.start c hc
  stop c hc := by
    rw [← List.append_assoc, List.getLast?_append, List.getLast?_eq_some_getLast hds'] at hc
    exact hds.stop c (List.getLast?_eq_some_getLast hds' ▸ hc)

/-- Nothing is trimmed from what neither begins nor ends in a blank. -/
lemma trim_eq (h : Bounded cs) : trim (String.ofList cs) = String.ofList cs := by
  have hstart : dropBlanks cs = cs := dropWhile_of_head? h.start
  have hstop : dropBlanksEnd cs = cs := rdropWhile_of_getLast? h.stop
  rw [trim, String.toList_ofList, hstart, hstop]

end Bounded

end Text

namespace Value

/-- A conversion reads all of what neither begins nor ends in a blank. -/
lemma trimmed_ofList {cs : List Char} (h : Text.Bounded cs) :
    trimmed (String.ofList cs) = cs := by
  rw [trimmed, h.trim_eq, String.toList_ofList]

/-- White space around a text makes no difference to what it is converted to, unless it is to stay
a text. -/
theorem cast_surrounded {before s after : String} {ty : ColumnType} {formats : Formats}
    (hty : ty ≠ .text) (hbefore : Text.Blank before) (hafter : Text.Blank after) :
    (text (before ++ s ++ after)).cast ty formats = (text s).cast ty formats := by
  have htrim := Text.trim_surrounded (s := s) hbefore hafter
  cases ty with
  | text => exact absurd rfl hty
  | int | float | bool | dateTime | guid | blob | enum =>
    simp only [cast, isNull, toInt?, toFloat?, toBool?, toDateTime?, toGuid, toBlob?, toEnum?,
      noConversion, type?, trimmed, htrim, Bool.false_eq_true, if_false]

end Value

end TableQuery
