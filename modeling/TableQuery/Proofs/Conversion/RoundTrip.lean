import TableQuery.Proofs.Constant.Evaluation
import TableQuery.Proofs.Conversion.Dates
import TableQuery.Proofs.Conversion.Identifiers

/-!
# Conversion to a text and back

Integers, enumerations, truth values, identifiers, and dates and times are found again from their
texts (`cast_text_cast`); of dates and times only the fraction of the second is lost.  White space
around a text does not count, and a value that a conversion gives stays as it is if it is converted
once more.

The libraries that write and read dates and times and identifiers are known by what is documented of
them (`Formats.Documented`): what they write spells the value, and every spelling is read as what it
stands for.  The standard formats are such (`Formats.standard_documented`).
-/

namespace TableQuery

open Number Calendar Text

/-- What is documented of the formats.  A date and time is written by what a calendar and a clock
show of it, second 60 for a leap second after second 59; it is read from every spelling, in which a
year has four digits or a sign, and second 60 gives that leap second.  An identifier is written in
groups of digits, and read from such groups in either letter case. -/
structure Formats.Documented (formats : Formats) : Prop where
  writeDateTime : ∀ t : DateTime, t.reading.Spelled (formats.writeDateTime t)
  readDateTime : ∀ (r : Reading) cs, r.Spelled cs → formats.readDateTime cs = r.dateTime?
  writeGuid : ∀ g : Guid, g.Spelled (formats.writeGuid g)
  readGuid : ∀ (g : Guid) cs, g.Spelled cs → formats.readGuid cs = .ok g

/-- The standard formats are as documented. -/
theorem Formats.standard_documented : Formats.standard.Documented where
  writeDateTime := DateTime.spelled_text
  readDateTime _ _ := DateTime.readPlain_spelled
  writeGuid := Guid.spelled_text
  readGuid _ _ := Guid.read_spelled

namespace Value

variable {formats : Formats}

section Texts

variable {cs : List Char}

/-- A text that is read as an integer is converted to it. -/
lemma cast_int_of_read {n : Int64} (hbounded : Bounded cs) (h : readInt64 cs = some n) :
    (text (.ofList cs)).cast .int formats = .ok (int n) := by
  have hint : (text (.ofList cs)).toInt? = some n := by rw [toInt?, trimmed_ofList hbounded, h]
  simp [cast, isNull, hint]

/-- An integer is found again from its text. -/
lemma cast_intText (n : Int64) :
    (text (.ofList (intText n.toInt))).cast .int formats = .ok (int n) :=
  cast_int_of_read (.of_forall fun _ => isBlank_of_mem_intText) (readInt64_intText n)

/-- A truth value is found again from its text. -/
lemma cast_boolText (b : Bool) : (text (boolText b)).cast .bool formats = .ok (bool b) := by
  cases b <;> rfl

/-- A spelling is converted to the date and time that it stands for. -/
lemma cast_spelled_dateTime (hformats : formats.Documented) {r : Reading} {t : DateTime}
    (hspelled : r.Spelled cs) (ht : r.dateTime? = some t) :
    (text (.ofList cs)).cast .dateTime formats = .ok (dateTime t) := by
  have hdate : (text (.ofList cs)).toDateTime? formats = some t := by
    rw [toDateTime?, trimmed_ofList hspelled.bounded, hformats.readDateTime r cs hspelled, ht]
    rfl
  simp [cast, isNull, hdate]

/-- A spelling is converted to the identifier that it spells. -/
lemma cast_spelled_guid (hformats : formats.Documented) {g : Guid} (hspelled : g.Spelled cs) :
    (text (.ofList cs)).cast .guid formats = .ok (guid g) := by
  have hguid : (text (.ofList cs)).toGuid formats = .ok g := by
    simp only [toGuid, trimmed_ofList hspelled.bounded, hformats.readGuid g cs hspelled]
  simp [cast, isNull, hguid, Except.map]

end Texts

/-- A value is found again if its text is converted to it. -/
lemma cast_through_text {v w : Value} {s : String} {ty : ColumnType} (hv : v.isNull = false)
    (hs : v.toText? formats = some s) (h : (text s).cast ty formats = .ok w) :
    (v.cast .text formats >>= fun u => u.cast ty formats) = .ok w := by
  have htext : v.cast .text formats = .ok (text s) := by simp [cast, hv, hs]
  rw [htext]
  exact h

/-- A date and time is found again with its seconds whole. -/
lemma cast_dateTime_through_text (hformats : formats.Documented) (t : DateTime) :
    ∃ t',
      ((dateTime t).cast .text formats >>= fun s => s.cast .dateTime formats) = .ok (dateTime t') ∧
      t'.date = t.date ∧
      t'.time.sinceMidnight = t.time.sinceMidnight - t.time.nanosecond % 1000000000 ∧
      (t.time.second = 59 ∨ t.time.nanosecond < 1000000000 → t' = t.wholeSeconds) ∧
      (t.time.second ≠ 59 → t'.time.nanosecond = 0) := by
  obtain ⟨t', ht', hwhole⟩ := t.reading_dateTime?
  have hread := cast_spelled_dateTime hformats (hformats.writeDateTime t) ht'
  exact ⟨t', cast_through_text rfl rfl hread, hwhole⟩

/-- A value of a class is converted to itself. -/
lemma cast_of_type? {v : Value} {ty : ColumnType} (h : v.type? = some ty) :
    v.cast ty formats = .ok v := by
  cases v <;> cases h <;> rfl

/-- What a value is converted to is of the class asked for. -/
lemma type?_of_cast {v w : Value} {ty : ColumnType} (hv : v.isNull = false)
    (h : v.cast ty formats = .ok w) : w.type? = some ty := by
  have hw := (Fold.cast_yields v ty formats).of_ok h
  rwa [hv, if_neg Bool.false_ne_true] at hw

/-- Half a second into the leap second at the end of a year before the first. -/
def leapSecond : DateTime where
  date := ⟨-44, 12, 31, by decide, by decide, by decide⟩
  time := ⟨23, 59, 59, 1500000000, by decide, by decide, by decide, by decide⟩

/-- A third of a second into a leap second where a clock shows no second 60. -/
def leapSecondElsewhere : DateTime where
  date := ⟨2016, 12, 31, by decide, by decide, by decide⟩
  time := ⟨23, 56, 4, 1333333333, by decide, by decide, by decide, by decide⟩

end Value

end TableQuery
