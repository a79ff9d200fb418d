import TableQuery.Calendar.DateTime
import TableQuery.Text.Blank

/-!
# Dates and times as text

A date and time is written `2024-02-29 13:30:00`, without its fraction of a second.  It is read from
that form, or from the one with a `T` between the date and the time and an optional fraction.
Reading is lenient about white space before a number and about leading zeros, and it takes second 60
for a leap second.
-/

namespace TableQuery.Calendar

open Number Text

/-- A number in at least `width` digits. -/
def padded (width n : Nat) : List Char :=
  let digits := natText n
  List.replicate (width - digits.length) '0' ++ digits

/-- A year: four digits, with a sign if these do not suffice. -/
def yearText (year : Int) : List Char :=
  if 0 ≤ year ∧ year ≤ 9999 then padded 4 year.toNat
  else (if year < 0 then '-' else '+') :: padded 4 year.natAbs

/-- The second as a clock shows it, 60 during a leap second. -/
def Time.shownSecond (t : Time) : Nat := t.second + t.nanosecond / 1000000000

/-- The text of a date and time. -/
def DateTime.text (t : DateTime) : List Char :=
  yearText t.date.year ++ '-' :: padded 2 t.date.month ++ '-' :: padded 2 t.date.day ++
    ' ' :: padded 2 t.time.hour ++ ':' :: padded 2 t.time.minute ++
    ':' :: padded 2 t.time.shownSecond

/-- Reads a number of at most `width` digits, past white space, and returns what follows it. -/
def readField (width : Nat) (cs : List Char) : Option (Nat × List Char) :=
  let cs := dropBlanks cs
  let digits := (cs.take width).takeWhile Char.isDigit
  (readNat digits).map fun n => (n, cs.drop digits.length)

/-- Reads a number of any length, and returns what follows it. -/
def readLong (cs : List Char) : Option (Nat × List Char) :=
  (readNat (cs.takeWhile Char.isDigit)).map fun n => (n, cs.dropWhile Char.isDigit)

/-- Reads a year, past white space: up to four digits, or a sign and any number of them. -/
def readYear (cs : List Char) : Option (Int × List Char) :=
  match dropBlanks cs with
  | '-' :: rest => (readLong rest).map fun (n, rest) => (-(n : Int), rest)
  | '+' :: rest => (readLong rest).map fun (n, rest) => ((n : Int), rest)
  | rest => (readField 4 rest).map fun (n, rest) => ((n : Int), rest)

/-- Reads one given character. -/
def readMark (c : Char) : List Char → Option (List Char)
  | [] => none
  | d :: rest => if c = d then some rest else none

/-- Reads an optional fraction of a second as nanoseconds; digits beyond the ninth do not count. -/
def readFraction : List Char → Option (Nat × List Char)
  | '.' :: rest => do
    let digits := rest.takeWhile Char.isDigit
    let kept := digits.take 9
    let n ← readNat kept
    return (n * Nat.pow 10 (9 - kept.length), rest.drop digits.length)
  | rest => some (0, rest)

/-- The time with the parts as written, where second 60 stands for a leap second. -/
def Time.ofWritten? (hour minute second nanosecond : Nat) : Option Time :=
  if second = 60 then Time.of? hour minute 59 (1000000000 + nanosecond)
  else Time.of? hour minute second nanosecond

/-- Reads a date and time; `separator` reads what stands between the two and `fraction` what may
follow the seconds.  Nothing may be left over. -/
def readWith (separator : List Char → Option (List Char))
    (fraction : List Char → Option (Nat × List Char)) (cs : List Char) : Option DateTime := do
  let (year, cs) ← readYear cs
  let (month, cs) ← readField 2 (← readMark '-' cs)
  let (day, cs) ← readField 2 (← readMark '-' cs)
  let (hour, cs) ← readField 2 (← separator cs)
  let (minute, cs) ← readField 2 (← readMark ':' cs)
  let (second, cs) ← readField 2 (← readMark ':' cs)
  let (nanosecond, cs) ← fraction cs
  if cs ≠ [] then none
  else return ⟨← Date.of? year month day, ← Time.ofWritten? hour minute second nanosecond⟩

/-- Reads a date and time with white space between the two and no fraction. -/
def DateTime.readPlain (cs : List Char) : Option DateTime :=
  readWith (fun cs => some (dropBlanks cs)) (fun cs => some (0, cs)) cs

/-- Reads a date and time with a `T` between the two and an optional fraction. -/
def DateTime.readStamp (cs : List Char) : Option DateTime :=
  readWith (readMark 'T') readFraction cs

end TableQuery.Calendar
