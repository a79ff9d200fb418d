import Mathlib.Tactic.Lemma
import TableQuery.Number.Integer
import TableQuery.Text.Blank

/-!
# Decimal integers read back

The decimal text of a natural number, and that of a 64-bit integer with its sign, is read back as
that number.
-/

namespace TableQuery.Number

section Digits

variable {n : Nat} {c : Char} {cs : List Char}

/-- A numeral consists of digits. -/
lemma isDigit_of_mem_natText (h : c ∈ natText n) : c.isDigit = true :=
  Nat.isDigit_of_mem_toDigits (by decide) (by decide) h

/-- A numeral has a digit. -/
lemma natText_ne_nil : natText n ≠ [] := Nat.toDigits_ne_nil

/-- Digits are read as a number. -/
lemma readNat_of_digits (hne : cs ≠ []) (h : ∀ c ∈ cs, c.isDigit = true) :
    readNat cs = some (Nat.ofDigitChars 10 cs 0) := by
  rw [readNat, if_pos ⟨hne, List.all_eq_true.mpr h⟩]

/-- A number is found again from its numeral. -/
@[simp] lemma readNat_natText : readNat (natText n) = some n := by
  rw [readNat_of_digits natText_ne_nil fun _ => isDigit_of_mem_natText, natText,
    Nat.ofDigitChars_ten_toDigits]

/-- Different numbers have different numerals. -/
lemma natText_injective {m : Nat} (h : natText m = natText n) : m = n := by
  have hread := readNat_natText (n := m)
  rw [h, readNat_natText] at hread
  exact (Option.some.inj hread).symm

/-- A number is shown as its numeral. -/
lemma toList_toString (n : Nat) : (toString n).toList = natText n := by
  rw [Nat.toString_eq_ofList_toDigits, String.toList_ofList, natText]

/-- A digit is no blank. -/
lemma isBlank_of_isDigit (h : c.isDigit = true) : Text.isBlank c = false := by
  simp only [Char.isDigit, Bool.and_eq_true, decide_eq_true_eq, ge_iff_le,
    UInt32.le_iff_toNat_le] at h
  have hlow : 48 ≤ c.toNat := h.1
  have hhigh : c.toNat ≤ 57 := h.2
  simp only [Text.isBlank, Bool.or_eq_false_iff, Bool.and_eq_false_iff, decide_eq_false_iff_not,
    beq_eq_false_iff_ne]
  omega

/-- A digit is neither a sign nor any other character that is no digit. -/
lemma ne_of_isDigit {d : Char} (h : c.isDigit = true) (hd : d.isDigit = false) : c ≠ d := by
  rintro rfl
  rw [h] at hd
  cases hd

end Digits

section Integers

/-- An integer of 64 bits stands for itself. -/
lemma int64?_eq_some {x : Int} {n : Int64} : int64? x = some n ↔ n.toInt = x := by
  constructor
  case mp =>
    intro h
    unfold int64? at h
    split at h
    case isTrue hx =>
      cases h
      exact Int64.toInt_ofInt_of_le hx.1 (Int.lt_of_le_of_lt hx.2 (by decide))
    case isFalse => cases h
  case mpr =>
    rintro rfl
    rw [int64?, if_pos ⟨n.minValue_le_toInt, n.toInt_le⟩, Int64.ofInt_toInt]

/-- A number of 64 bits is found again from the integer that it is. -/
lemma int64?_toInt (n : Int64) : int64? n.toInt = some n := int64?_eq_some.mpr rfl

/-- Digits without a sign are read as they stand. -/
lemma readInt64_of_digits {cs : List Char} (h : ∀ c ∈ cs, c.isDigit = true) :
    readInt64 cs = (readNat cs).bind fun n => int64? n := by
  unfold readInt64
  split
  · cases h '-' List.mem_cons_self
  · cases h '+' List.mem_cons_self
  · rfl

/-- Every 64-bit integer is read back from its decimal text. -/
theorem readInt64_intText (n : Int64) : readInt64 (intText n.toInt) = some n := by
  unfold intText
  split
  case isTrue hneg =>
    have habs : -(n.toInt.natAbs : Int) = n.toInt := by omega
    rw [readInt64, readNat_natText]
    show int64? (-(n.toInt.natAbs : Int)) = some n
    rw [habs, int64?_toInt]
  case isFalse hpos =>
    have habs : (n.toInt.natAbs : Int) = n.toInt := by omega
    rw [readInt64_of_digits fun _ => isDigit_of_mem_natText, readNat_natText, Option.bind_some,
      habs, int64?_toInt]

/-- An integer is written without blanks. -/
lemma isBlank_of_mem_intText {n : Int} {c : Char} (h : c ∈ intText n) :
    Text.isBlank c = false := by
  unfold intText at h
  split at h
  case isTrue =>
    rcases List.mem_cons.mp h with rfl | h
    · rfl
    · exact isBlank_of_isDigit (isDigit_of_mem_natText h)
  case isFalse => exact isBlank_of_isDigit (isDigit_of_mem_natText h)

end Integers

end TableQuery.Number
