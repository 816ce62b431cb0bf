/-!
# Calendar days and moments

Days of the Gregorian calendar, extended to all years from 1 to 9999, times of day to the
microsecond, and moments, which may know their offset from universal time.

* `isLeap`, `daysInMonth`: the shape of a year.
* `Date`, `TimeOfDay`, `Moment`: the values; only valid ones exist.
* `Date.ordinal`, `Date.ofOrdinal?`: days counted from 1 January of the year 1, which is day 1.
* `Date.weekday`, `Date.ofWeek?`: days of the week and of numbered weeks.

Main statements: `daysInMonth_le` and `month_le` (a valid day has a month from 1 to 12).
-/

namespace FormLetter

/-! ## Years -/

/-- Whether a year has a 29 February. -/
def isLeap (year : Nat) : Bool := year % 4 == 0 && (year % 100 != 0 || year % 400 == 0)

/-- The number of days of a month; there are none in a month other than 1 to 12. -/
def daysInMonth (year month : Nat) : Nat :=
  match month with
  | 1 | 3 | 5 | 7 | 8 | 10 | 12 => 31
  | 4 | 6 | 9 | 11 => 30
  | 2 => if isLeap year then 29 else 28
  | _ => 0

theorem daysInMonth_le (year month : Nat) : daysInMonth year month ≤ 31 := by
  unfold daysInMonth
  split <;> (try split) <;> omega

/-- The number of days before a year. -/
def daysBeforeYear (year : Nat) : Nat :=
  let past := year - 1
  past * 365 + past / 4 - past / 100 + past / 400

/-- The number of days of a year before a month. -/
def daysBeforeMonth (year month : Nat) : Nat :=
  ((List.range month).map (daysInMonth year)).foldr (· + ·) 0

/-! ## Days -/

/-- A day. -/
structure Date where
  /-- The year, from 1 to 9999. -/
  year : Nat
  /-- The month, from 1. -/
  month : Nat
  /-- The day of the month, from 1. -/
  day : Nat
  /-- The year is in range and the month has the day. -/
  valid : (1 ≤ year ∧ year ≤ 9999) ∧ 1 ≤ day ∧ day ≤ daysInMonth year month
  deriving Repr, DecidableEq

namespace Date

theorem month_le (date : Date) : 1 ≤ date.month ∧ date.month ≤ 12 := by
  have h := date.valid.2
  have positive : daysInMonth date.year date.month ≠ 0 := by omega
  unfold daysInMonth at positive
  split at positive <;> omega

/-- The day with a year, a month and a day of the month, if there is one. -/
def of? (year month day : Nat) : Option Date :=
  if h : (1 ≤ year ∧ year ≤ 9999) ∧ 1 ≤ day ∧ day ≤ daysInMonth year month then
    some ⟨year, month, day, h⟩
  else none

theorem of?_eq (date : Date) : of? date.year date.month date.day = some date := by
  simp [of?, date.valid]

/-- The number of a day; 1 January of the year 1 has the number 1. -/
def ordinal (date : Date) : Nat :=
  daysBeforeYear date.year + daysBeforeMonth date.year date.month + date.day

/-- The day of a number. -/
def ofOrdinal? (n : Nat) : Option Date :=
  let estimate := (n - 1) * 400 / 146097 + 1
  let year :=
    if daysBeforeYear (estimate + 1) < n then estimate + 1
    else if n ≤ daysBeforeYear estimate then estimate - 1
    else estimate
  let rest := n - daysBeforeYear year
  ((List.range 13).find? fun month => rest ≤ daysBeforeMonth year (month + 1)).bind fun month =>
    of? year month (rest - daysBeforeMonth year month)

/-- The day of the week, from 0 for Monday to 6 for Sunday. -/
def weekday (date : Date) : Nat := (date.ordinal + 6) % 7

/-- The number of the Monday of the first week of a year, which is the week that holds 4 January. -/
def firstMonday (year : Nat) : Int :=
  let fourth := daysBeforeYear year + 4
  (fourth : Int) - ((fourth + 6) % 7 : Nat)

/-- The number of weeks of a year. -/
def weeksInYear (year : Nat) : Nat :=
  let first := (daysBeforeYear year + 1 + 6) % 7
  if first = 3 || (first = 2 && isLeap year) then 53 else 52

/-- The day of a week, from 1 for Monday to 7 for Sunday, in a week of a year. -/
def ofWeek? (year week day : Nat) : Option Date :=
  if 1 ≤ year ∧ year ≤ 9999 ∧ 1 ≤ week ∧ week ≤ weeksInYear year ∧ 1 ≤ day ∧ day ≤ 7 then
    let n := firstMonday year + ((week - 1) * 7 + (day - 1) : Nat)
    if 1 ≤ n then ofOrdinal? n.toNat else none
  else none

end Date

/-! ## Moments -/

/-- A time of day. -/
structure TimeOfDay where
  /-- The hour, from 0 to 23. -/
  hour : Nat := 0
  /-- The minute, from 0 to 59. -/
  minute : Nat := 0
  /-- The second, from 0 to 59. -/
  second : Nat := 0
  /-- The microsecond, from 0 to 999999. -/
  microsecond : Nat := 0
  /-- Every field is in range. -/
  valid : hour < 24 ∧ minute < 60 ∧ second < 60 ∧ microsecond < 1000000 := by decide
  deriving Repr, DecidableEq

/-- Midnight. -/
def TimeOfDay.midnight : TimeOfDay := {}

/-- The time of day with the given fields, if there is one. -/
def TimeOfDay.of? (hour minute second microsecond : Nat) : Option TimeOfDay :=
  if h : hour < 24 ∧ minute < 60 ∧ second < 60 ∧ microsecond < 1000000 then
    some ⟨hour, minute, second, microsecond, h⟩
  else none

/-- A day with a time of day. -/
structure Moment where
  /-- The day. -/
  date : Date
  /-- The time of day. -/
  time : TimeOfDay := .midnight
  /-- The offset from universal time in microseconds, if it is known. -/
  offset : Option Int := none
  deriving Repr, DecidableEq

/-- The moment with the given fields and no offset, if there is one. -/
def Moment.of? (year month day hour minute second : Nat) : Option Moment := do
  let date ← Date.of? year month day
  let time ← TimeOfDay.of? hour minute second 0
  some { date, time }

end FormLetter
