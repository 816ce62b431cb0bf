import FormLetter.Calendar.Reading

/-!
# Writing dates

A pattern writes a date: each of its letters stands for a field, a backslash takes the next
character as it is, and every other character stands for itself.

* `renderLetter?`: what a letter of a pattern stands for.
* `Moment.render`: a moment after a pattern.
* `reformatDate`: the text of a date in another form.
-/

namespace FormLetter

open Text

/-- The ordinal ending of a day. -/
def ordinalEnding (day : Nat) : String :=
  if 11 ≤ day % 100 ∧ day % 100 ≤ 13 then "th"
  else if day % 10 = 1 then "st"
  else if day % 10 = 2 then "nd"
  else if day % 10 = 3 then "rd"
  else "th"

/-- An hour of the twelve-hour clock. -/
def twelveHour (hour : Nat) : Nat := if hour % 12 = 0 then 12 else hour % 12

/-- What a letter of a pattern stands for. -/
def renderLetter? (moment : Moment) (letter : Char) : Option Text :=
  let date := moment.date
  let time := moment.time
  let month := (monthNames[date.month - 1]?).getD ""
  let weekday := (weekdayNames[date.weekday]?).getD ""
  match letter with
  | 'd' => some (padded 2 date.day)
  | 'j' => some (ofNat date.day)
  | 'D' => some (abbreviated weekday)
  | 'l' => some weekday.toList
  | 'N' => some (ofNat (date.weekday + 1))
  | 'S' => some (ordinalEnding date.day).toList
  | 'F' => some month.toList
  | 'M' => some (abbreviated month)
  | 'm' => some (padded 2 date.month)
  | 'n' => some (ofNat date.month)
  | 'Y' => some (padded 4 date.year)
  | 'y' => some (padded 2 (date.year % 100))
  | 'H' => some (padded 2 time.hour)
  | 'G' => some (ofNat time.hour)
  | 'h' => some (padded 2 (twelveHour time.hour))
  | 'g' => some (ofNat (twelveHour time.hour))
  | 'i' => some (padded 2 time.minute)
  | 's' => some (padded 2 time.second)
  | 'A' => some (if time.hour < 12 then "AM" else "PM").toList
  | 'a' => some (if time.hour < 12 then "am" else "pm").toList
  | _ => none

/-- A moment after a pattern. A backslash at the end stands for nothing. -/
def Moment.render (moment : Moment) : Text → Text
  | [] => []
  | '\\' :: c :: pattern => c :: moment.render pattern
  | ['\\'] => []
  | c :: pattern => (renderLetter? moment c).getD [c] ++ moment.render pattern

/-- The text of a date after a pattern; a text that is no date stays as it is. -/
def reformatDate (dayFirst : Bool) (pattern value : Text) : Text :=
  match Moment.read? dayFirst value with
  | some moment => moment.render pattern
  | none => value

end FormLetter
