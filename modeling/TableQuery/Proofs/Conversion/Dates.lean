import Mathlib.Algebra.Group.Nat.Defs
import Mathlib.Data.List.TakeWhile
import TableQuery.Proofs.Conversion.Blanks
import TableQuery.Proofs.Number.Decimal

/-!
# Dates and times read back

The text of a date and time spells what a calendar and a clock show (`DateTime.spelled_text`), and
any spelling of it is read as the date and time that it stands for (`DateTime.readPlain_spelled`).
Years of more than four digits and negative ones stand with a sign, and are read up to the next
hyphen.  Second 60 stands for a leap second after second 59; one that follows another second is
shown as the second after.  What the text leaves out is the fraction of the second, so the date and
time is found again with its seconds whole (`DateTime.reading_dateTime?`).
-/

namespace TableQuery.Calendar

open Number Text

/-- What a calendar and a clock show of a date and time. -/
structure Reading where
  year : Int
  month : Nat
  day : Nat
  hour : Nat
  minute : Nat
  second : Nat

/-- Digits that fill a field spell a number. -/
structure SpellsField (width : Nat) (cs : List Char) (n : Nat) : Prop where
  length : cs.length = width
  value : readNat cs = some n

/-- A year is spelled in four digits, or in any number of them after a sign. -/
inductive SpellsYear : List Char → Int → Prop
  | plain {cs : List Char} {n : Nat} : SpellsField 4 cs n → SpellsYear cs n
  | negative {cs : List Char} {n : Nat} : readNat cs = some n → SpellsYear ('-' :: cs) (-n)
  | positive {cs : List Char} {n : Nat} : readNat cs = some n → SpellsYear ('+' :: cs) n

/-- Characters that spell a reading in the form `%Y-%m-%d %H:%M:%S`. -/
inductive Reading.Spelled (r : Reading) : List Char → Prop
  | mk {year month day hour minute second : List Char} : SpellsYear year r.year →
    SpellsField 2 month r.month → SpellsField 2 day r.day → SpellsField 2 hour r.hour →
    SpellsField 2 minute r.minute → SpellsField 2 second r.second →
    Spelled r (year ++ '-' :: month ++ '-' :: day ++ ' ' :: hour ++ ':' :: minute ++ ':' :: second)

/-- The date and time that a reading stands for, if there is one. -/
def Reading.dateTime? (r : Reading) : Option DateTime := do
  return ⟨← Date.of? r.year r.month r.day, ← Time.ofWritten? r.hour r.minute r.second 0⟩

/-- What a calendar and a clock show of a date and time. -/
def DateTime.reading (t : DateTime) : Reading :=
  ⟨t.date.year, t.date.month, t.date.day, t.time.hour, t.time.minute, t.time.shownSecond⟩

section Fields

variable {width n : Nat} {cs rest : List Char}

/-- A number is read from digits. -/
lemma isDigit_of_readNat (h : readNat cs = some n) : cs ≠ [] ∧ ∀ c ∈ cs, c.isDigit = true := by
  unfold readNat at h
  split at h
  case isTrue hdigits => exact ⟨hdigits.1, List.all_eq_true.mp hdigits.2⟩
  case isFalse => cases h

/-- Digits begin with a digit. -/
lemma exists_cons_of_readNat (h : readNat cs = some n) :
    ∃ c ds, cs = c :: ds ∧ c.isDigit = true := by
  obtain ⟨hne, hdigits⟩ := isDigit_of_readNat h
  obtain ⟨c, ds, rfl⟩ := List.exists_cons_of_ne_nil hne
  exact ⟨c, ds, rfl, hdigits c List.mem_cons_self⟩

/-- No white space stands before a number. -/
lemma dropBlanks_of_readNat (h : readNat cs = some n) : dropBlanks (cs ++ rest) = cs ++ rest := by
  obtain ⟨c, ds, rfl, hc⟩ := exists_cons_of_readNat h
  exact List.dropWhile_cons_of_neg (by simp [isBlank_of_isDigit hc])

/-- White space before a number is skipped. -/
lemma dropBlanks_space (h : readNat cs = some n) :
    dropBlanks (' ' :: (cs ++ rest)) = cs ++ rest :=
  dropBlanks_of_readNat h

/-- Digits have no white space around them. -/
lemma bounded_of_readNat (h : readNat cs = some n) : Bounded cs :=
  .of_forall fun c hc => isBlank_of_isDigit ((isDigit_of_readNat h).2 c hc)

/-- A number that fills a field is read from it whatever follows, be it another digit. -/
theorem SpellsField.readField (h : SpellsField width cs n) :
    Calendar.readField width (cs ++ rest) = some (n, rest) := by
  have hdigits : cs.takeWhile Char.isDigit = cs :=
    List.takeWhile_eq_self_iff.mpr (isDigit_of_readNat h.value).2
  rw [Calendar.readField, dropBlanks_of_readNat h.value, List.take_left' h.length, hdigits, h.value,
    Option.map_some, List.drop_left]

/-- A number of any length is read up to the first character that is no digit. -/
theorem readLong_of_readNat {c : Char} (hc : c.isDigit = false) (h : readNat cs = some n) :
    readLong (cs ++ c :: rest) = some (n, c :: rest) := by
  obtain ⟨-, hdigits⟩ := isDigit_of_readNat h
  have hstop : ¬ c.isDigit = true := by simp [hc]
  rw [readLong, List.takeWhile_append_of_pos hdigits, List.dropWhile_append_of_pos hdigits,
    List.takeWhile_cons_of_neg hstop, List.dropWhile_cons_of_neg hstop, List.append_nil, h,
    Option.map_some]

/-- The zeros that fill up a number do not change it. -/
lemma readNat_padded : readNat (padded width n) = some n := by
  have hne : padded width n ≠ [] := List.append_ne_nil_of_right_ne_nil _ natText_ne_nil
  have hdigits : ∀ c ∈ padded width n, c.isDigit = true := by
    intro c h
    rcases List.mem_append.mp h with h | h
    · rw [List.eq_of_mem_replicate h]
      rfl
    · exact isDigit_of_mem_natText h
  rw [readNat_of_digits hne hdigits, padded, Nat.ofDigitChars_append,
    Nat.ofDigitChars_replicate_zero, Nat.mul_zero, natText, Nat.ofDigitChars_ten_toDigits]

/-- A number is written in as many digits as it is padded to, unless it needs more. -/
lemma spellsField_padded (hwidth : 0 < width) (h : n < 10 ^ width) :
    SpellsField width (padded width n) n where
  length := by
    have hle : (natText n).length ≤ width :=
      (Nat.length_toDigits_le_iff (by decide) hwidth).mpr h
    rw [padded, List.length_append, List.length_replicate, Nat.sub_add_cancel hle]
  value := readNat_padded

end Fields

/-- The time at which the second began, be it a leap second. -/
def Time.wholeSeconds (t : Time) : Time where
  hour := t.hour
  minute := t.minute
  second := t.second
  nanosecond := t.nanosecond / 1000000000 * 1000000000
  hour_lt := t.hour_lt
  minute_lt := t.minute_lt
  second_lt := t.second_lt
  nanosecond_lt := Nat.lt_of_le_of_lt (Nat.div_mul_le_self ..) t.nanosecond_lt

/-- The date and time at which the second began. -/
def DateTime.wholeSeconds (t : DateTime) : DateTime := ⟨t.date, t.time.wholeSeconds⟩

/-- The nanoseconds since midnight, as a time stamp counts them: a leap second goes on counting from
the second that it follows. -/
def Time.sinceMidnight (t : Time) : Nat :=
  ((t.hour * 60 + t.minute) * 60 + t.second) * 1000000000 + t.nanosecond

section Times

variable (t : Time)

/-- The second is shown as it is, or as the one after if it is a leap second. -/
lemma Time.shownSecond_cases :
    t.nanosecond / 1000000000 = 0 ∧ t.shownSecond = t.second ∨
      t.nanosecond / 1000000000 = 1 ∧ t.shownSecond = t.second + 1 := by
  have hlt := t.nanosecond_lt
  unfold Time.shownSecond
  omega

/-- The second that is shown is at most the sixtieth. -/
lemma Time.shownSecond_le : t.shownSecond ≤ 60 := by
  have hsecond := t.second_lt
  rcases t.shownSecond_cases with ⟨-, h⟩ | ⟨-, h⟩ <;> omega

/-- The time of day with given parts is found again from them. -/
lemma Time.of?_eq_some {hour minute second nanosecond : Nat} {t : Time}
    (hhour : hour = t.hour) (hminute : minute = t.minute) (hsecond : second = t.second)
    (hnanosecond : nanosecond = t.nanosecond) :
    Time.of? hour minute second nanosecond = some t := by
  subst hhour hminute hsecond hnanosecond
  exact dif_pos ⟨t.hour_lt, t.minute_lt, t.second_lt, t.nanosecond_lt⟩

/-- What a clock shows stands for the same time with its seconds whole, and for the very time at
which the second began unless that is a leap second after another second than 59.  It stands for a
leap second only after second 59. -/
lemma Time.ofWritten?_shownSecond :
    ∃ t', Time.ofWritten? t.hour t.minute t.shownSecond 0 = some t' ∧
      t'.sinceMidnight = t.sinceMidnight - t.nanosecond % 1000000000 ∧
      (t.second = 59 ∨ t.nanosecond < 1000000000 → t' = t.wholeSeconds) ∧
      (t.second ≠ 59 → t'.nanosecond = 0) := by
  have hlt := t.second_lt
  have hcount : t.sinceMidnight - t.nanosecond % 1000000000 = t.wholeSeconds.sinceMidnight := by
    simp only [sinceMidnight, wholeSeconds]
    omega
  rcases t.shownSecond_cases with ⟨hzero, hshown⟩ | ⟨hone, hshown⟩
  case inl =>
    have hwhole : t.wholeSeconds.nanosecond = 0 := by
      show t.nanosecond / 1000000000 * 1000000000 = 0
      rw [hzero, Nat.zero_mul]
    refine ⟨t.wholeSeconds, ?_, hcount.symm, fun _ => rfl, fun _ => hwhole⟩
    rw [ofWritten?, hshown, if_neg (by omega)]
    exact of?_eq_some rfl rfl rfl hwhole.symm
  case inr =>
    have hwhole : t.wholeSeconds.nanosecond = 1000000000 := by
      show t.nanosecond / 1000000000 * 1000000000 = 1000000000
      rw [hone, Nat.one_mul]
    by_cases hsecond : t.second = 59
    · -- The second is shown as 60, which is read as a leap second after second 59.
      refine ⟨t.wholeSeconds, ?_, hcount.symm, fun _ => rfl, absurd hsecond⟩
      rw [ofWritten?, hshown, if_pos (by omega)]
      exact of?_eq_some rfl rfl hsecond.symm hwhole.symm
    · -- The second is shown as the one that comes after it, and is read as that.
      have hnext : t.second + 1 < 60 := by omega
      refine ⟨⟨t.hour, t.minute, t.second + 1, 0, t.hour_lt, t.minute_lt, hnext, by decide⟩,
        ?_, ?_, ?_, fun _ => rfl⟩
      · rw [ofWritten?, hshown, if_neg (by omega)]
        exact of?_eq_some rfl rfl rfl rfl
      · rw [hcount]
        simp only [sinceMidnight, wholeSeconds, hone]
        omega
      · intro h
        omega

end Times

section Dates

variable (d : Date)

/-- A day of the month has at most two digits. -/
lemma Date.day_lt : d.day < 100 := by
  have hday := d.day_mem.2
  unfold daysInMonth at hday
  split_ifs at hday <;> omega

/-- A date is found again from its parts. -/
lemma Date.of?_parts : Date.of? d.year d.month d.day = some d :=
  dif_pos ⟨d.year_mem, d.month_mem, d.day_mem⟩

end Dates

section Years

variable {year : Int} {cs rest : List Char}

/-- Every spelling of a year is read up to the hyphen that follows it. -/
theorem SpellsYear.readYear (h : SpellsYear cs year) :
    Calendar.readYear (cs ++ '-' :: rest) = some (year, '-' :: rest) := by
  cases h with
  | plain h =>
    have hfield : readField 4 (cs ++ '-' :: rest) = _ := h.readField
    obtain ⟨c, ds, hcs, hc⟩ := exists_cons_of_readNat h.value
    rw [Calendar.readYear, dropBlanks_of_readNat h.value, hcs, List.cons_append]
    rw [hcs, List.cons_append] at hfield
    split
    case h_1 heq => exact absurd (List.cons.inj heq).1 (ne_of_isDigit hc rfl)
    case h_2 heq => exact absurd (List.cons.inj heq).1 (ne_of_isDigit hc rfl)
    case h_3 => rw [hfield, Option.map_some]
  | negative h | positive h =>
    rw [List.cons_append]
    show (readLong (_ ++ '-' :: rest)).map _ = _
    rw [readLong_of_readNat rfl h, Option.map_some]

/-- A year is written without blanks at its ends. -/
lemma SpellsYear.bounded (h : SpellsYear cs year) : Bounded cs ∧ cs ≠ [] := by
  cases h with
  | plain h => exact ⟨bounded_of_readNat h.value, (isDigit_of_readNat h.value).1⟩
  | negative h | positive h =>
    refine ⟨.of_forall fun c hc => ?_, List.cons_ne_nil _ _⟩
    rcases List.mem_cons.mp hc with rfl | hc
    · rfl
    · exact isBlank_of_isDigit ((isDigit_of_readNat h).2 c hc)

/-- The text of a year spells it. -/
lemma spellsYear_yearText : SpellsYear (yearText year) year := by
  unfold yearText
  split
  case isTrue hshort =>
    have hfield : SpellsField 4 (padded 4 year.toNat) year.toNat :=
      spellsField_padded (by decide) (by omega)
    have hyear : (year.toNat : Int) = year := Int.toNat_of_nonneg hshort.1
    exact hyear ▸ SpellsYear.plain hfield
  case isFalse hlarge =>
    have hdigits : readNat (padded 4 year.natAbs) = some year.natAbs := readNat_padded
    split
    case isTrue hneg =>
      have hyear : -(year.natAbs : Int) = year := by omega
      have hspells := SpellsYear.negative hdigits
      rwa [hyear] at hspells
    case isFalse hpos =>
      have hyear : (year.natAbs : Int) = year := by omega
      have hspells := SpellsYear.positive hdigits
      rwa [hyear] at hspells

end Years

namespace Reading.Spelled

variable {r : Reading} {cs : List Char}

/-- A spelling has no white space around it. -/
lemma bounded (h : r.Spelled cs) : Bounded cs := by
  obtain @⟨_, month, day, hour, minute, _, hyear, hmonth, hday, hhour, hminute, hsecond⟩ := h
  have hends := hyear.bounded.1.append (bounded_of_readNat hsecond.value)
    ('-' :: month ++ '-' :: day ++ ' ' :: hour ++ ':' :: minute ++ [':']) hyear.bounded.2
    (isDigit_of_readNat hsecond.value).1
  simpa only [List.append_assoc, List.cons_append, List.nil_append] using hends

end Reading.Spelled

namespace DateTime

/-- The text of a date and time spells what a calendar and a clock show. -/
theorem spelled_text (t : DateTime) : t.reading.Spelled t.text := by
  have hmonth : t.date.month < 10 ^ 2 := Nat.lt_of_le_of_lt t.date.month_mem.2 (by decide)
  have hsecond : t.time.shownSecond < 10 ^ 2 :=
    Nat.lt_of_le_of_lt t.time.shownSecond_le (by decide)
  exact .mk spellsYear_yearText (spellsField_padded Nat.zero_lt_two hmonth)
    (spellsField_padded Nat.zero_lt_two t.date.day_lt)
    (spellsField_padded Nat.zero_lt_two (Nat.lt_trans t.time.hour_lt (by decide)))
    (spellsField_padded Nat.zero_lt_two (Nat.lt_trans t.time.minute_lt (by decide)))
    (spellsField_padded Nat.zero_lt_two hsecond)

/-- A mark is read where it stands. -/
lemma readMark_cons (c : Char) (rest : List Char) : readMark c (c :: rest) = some rest := if_pos rfl

/-- A spelling is read as the date and time that it stands for; no part runs into the next. -/
theorem readPlain_spelled {r : Reading} {cs : List Char} (h : r.Spelled cs) :
    readPlain cs = r.dateTime? := by
  obtain ⟨hyear, hmonth, hday, hhour, hminute, hsecond⟩ := h
  have hlast : readField 2 (_ ++ []) = some (r.second, []) := hsecond.readField
  rw [List.append_nil] at hlast
  simp only [readPlain, readWith, List.append_assoc, List.cons_append, hyear.readYear,
    readMark_cons, hmonth.readField, hday.readField, dropBlanks_space hhour.value, hhour.readField,
    hminute.readField, hlast, Option.bind_eq_bind, Option.bind_some, ne_eq, not_true, if_false]
  rfl

/-- What a calendar and a clock show of a date and time stands for it, with its seconds whole. -/
lemma reading_dateTime? (t : DateTime) :
    ∃ t', t.reading.dateTime? = some t' ∧ t'.date = t.date ∧
      t'.time.sinceMidnight = t.time.sinceMidnight - t.time.nanosecond % 1000000000 ∧
      (t.time.second = 59 ∨ t.time.nanosecond < 1000000000 → t' = t.wholeSeconds) ∧
      (t.time.second ≠ 59 → t'.time.nanosecond = 0) := by
  obtain ⟨time, htime, hcount, hwhole, hzero⟩ := t.time.ofWritten?_shownSecond
  refine ⟨⟨t.date, time⟩, ?_, rfl, hcount, ?_, hzero⟩
  case refine_2 => exact fun h => congrArg (DateTime.mk t.date) (hwhole h)
  simp only [Reading.dateTime?, reading, Date.of?_parts, htime]
  rfl

end DateTime

end TableQuery.Calendar
