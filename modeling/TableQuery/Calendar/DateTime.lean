import TableQuery.Number.Integer

/-!
# Civil dates and times

A point on the calendar and the clock, without a time zone, in the proleptic Gregorian calendar.  A
leap second is kept as the second that it follows, with a nanosecond count of a thousand million or
more.  It follows second 59 of a minute on most clocks, but any second can be given such a count.
The proof fields say that the parts are in range, so every value of the type is a real date and
time.
-/

namespace TableQuery.Calendar

/-- Whether a year has a 29th of February. -/
def isLeapYear (year : Int) : Bool :=
  year % 4 == 0 && (year % 100 != 0 || year % 400 == 0)

/-- The number of days of a month. -/
def daysInMonth (year : Int) (month : Nat) : Nat :=
  if month = 2 then if isLeapYear year then 29 else 28
  else if month = 4 ∨ month = 6 ∨ month = 9 ∨ month = 11 then 30
  else 31

/-- A day of the calendar. -/
structure Date where
  year : Int
  month : Nat
  day : Nat
  year_mem : -262143 ≤ year ∧ year ≤ 262142
  month_mem : 1 ≤ month ∧ month ≤ 12
  day_mem : 1 ≤ day ∧ day ≤ daysInMonth year month
  deriving DecidableEq

/-- A time of the day. -/
structure Time where
  hour : Nat
  minute : Nat
  second : Nat
  nanosecond : Nat
  hour_lt : hour < 24
  minute_lt : minute < 60
  second_lt : second < 60
  nanosecond_lt : nanosecond < 2000000000
  deriving DecidableEq

/-- A day and a time of that day. -/
structure DateTime where
  date : Date
  time : Time
  deriving DecidableEq

/-- The day with the given parts, if there is one. -/
def Date.of? (year : Int) (month day : Nat) : Option Date :=
  if h : (-262143 ≤ year ∧ year ≤ 262142) ∧ (1 ≤ month ∧ month ≤ 12) ∧
      1 ≤ day ∧ day ≤ daysInMonth year month then
    some ⟨year, month, day, h.1, h.2.1, h.2.2⟩
  else none

/-- The time with the given parts, if there is one. -/
def Time.of? (hour minute second nanosecond : Nat) : Option Time :=
  if h : hour < 24 ∧ minute < 60 ∧ second < 60 ∧ nanosecond < 2000000000 then
    some ⟨hour, minute, second, nanosecond, h.1, h.2.1, h.2.2.1, h.2.2.2⟩
  else none

/-- The numbers of a date and time, the most significant first. -/
def DateTime.parts (t : DateTime) : List Int :=
  [t.date.year, t.date.month, t.date.day, t.time.hour, t.time.minute, t.time.second,
    t.time.nanosecond]

/-- The order of two dates and times, earlier first. -/
def DateTime.compare (a b : DateTime) : Ordering :=
  compareLex a.parts b.parts
where
  /-- The order of two lists of numbers by their first difference. -/
  compareLex : List Int → List Int → Ordering
    | [], [] => .eq
    | [], _ :: _ => .lt
    | _ :: _, [] => .gt
    | x :: xs, y :: ys => (Ord.compare x y).then (compareLex xs ys)

end TableQuery.Calendar
