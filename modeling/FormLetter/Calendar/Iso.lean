import FormLetter.Calendar.Date
import FormLetter.Text.Basic

/-!
# Dates of the international standard

Reading of `2024-03-15`, `20240315`, `2024-W11-5` and `2024W115`, each on its own or followed by one
separator character and a time such as `14:05`, `140509`, `14:05:09.25` or `14:05:09,25`. Behind the
time may stand `Z` or an offset from universal time. Digits beyond the sixth of a fraction are read
over.

* `readDay?`, `readClock?`, `readZoned?`: the day, the time of day, the time with its offset.
* `Moment.readIso?`: a moment from its text.
-/

namespace FormLetter

/-! ## Digits -/

/-- The number written by exactly `width` ASCII digits in front of a text. -/
def takeDigits? (width : Nat) (text : Text) : Option (Nat × Text) :=
  let digits := text.take width
  if digits.length = width ∧ digits.all Char.isDigit then
    some (Text.digitsNumber digits, text.drop width)
  else none

/-! ## Days -/

/-- Where the day ends in a text that starts with one. A year followed by a hyphen has two digits of
month and of day behind hyphens; the forms with numbered weeks have a day or none, and where the
digits leave both open, an even number of digits is taken for a time of its own. -/
def dayLength? (text : Text) : Option Nat :=
  let length := text.length
  let isDigitAt (i : Nat) : Bool := text[i]?.any Char.isDigit
  if length < 7 then none
  else if length = 7 then some 7
  else if text[4]? = some '-' then
    if text[5]? = some 'W' then
      if text[8]? = some '-' then
        if length = 9 then none else some (if isDigitAt 10 then 8 else 10)
      else some 8
    else some 10
  else if text[4]? = some 'W' then
    let last := 7 + ((text.drop 7).takeWhile Char.isDigit).length
    if last < 9 then some last else some (if last % 2 = 0 then 7 else 8)
  else some 8

/-- The text behind a hyphen, if there has to be one, or the text. -/
def afterHyphen? (required : Bool) (text : Text) : Option Text :=
  if required then Text.after? ['-'] text else some text

/-- The day that a text starts with; `text` holds no more than its first `length` characters. -/
def readDay? (text : Text) : Option Date := do
  let (year, rest) ← takeDigits? 4 text
  let hyphens := rest.head? = some '-'
  let rest := if hyphens then rest.drop 1 else rest
  match rest with
  | 'W' :: rest =>
    let (week, rest) ← takeDigits? 2 rest
    if rest = [] then Date.ofWeek? year week 1
    else
      let rest ← afterHyphen? hyphens rest
      let (day, _) ← takeDigits? 1 rest
      Date.ofWeek? year week day
  | _ =>
    let (month, rest) ← takeDigits? 2 rest
    let rest ← afterHyphen? hyphens rest
    let (day, rest) ← takeDigits? 2 rest
    if rest = [] then Date.of? year month day else none

/-! ## Times -/

/-- The fields of a clock text, and whether a character is left over behind them. -/
structure Clock where
  /-- The hours, minutes and seconds as far as they are given. -/
  fields : List Nat
  /-- The microseconds. -/
  microsecond : Nat := 0
  /-- Whether something is left over. -/
  leftover : Bool := false
  deriving Repr, DecidableEq

/-- Up to six digits as microseconds; what follows further digits is left over. -/
def readFraction? (fields : List Nat) (text : Text) : Option Clock := do
  let width := min 6 text.length
  let (n, rest) ← takeDigits? width text
  some ⟨fields, n * Nat.pow 10 (6 - width), !(rest.dropWhile Char.isDigit).isEmpty⟩

/-- Reads the remaining fields of a clock text; `colons` tells whether they stand behind colons,
once the first field is read. A fraction may stand behind any field. A single ASCII character behind
any field is left over. -/
def readClockFrom? (fields : List Nat) (colons : Option Bool) : Nat → Text → Option Clock
  | 0, _ => none
  | remaining + 1, text => do
    let (n, rest) ← takeDigits? 2 text
    let fields := fields ++ [n]
    match rest with
    | [] => some { fields }
    | [c] => if c.toNat < 0x80 then some { fields, leftover := true } else none
    | c :: tail =>
      let colons := colons.getD (c = ':')
      if colons && c = ':' then
        if remaining = 0 then readFraction? fields tail
        else readClockFrom? fields (some colons) remaining tail
      else if c = '.' || c = ',' then readFraction? fields tail
      else if colons then none
      else if remaining = 0 then readFraction? fields rest
      else readClockFrom? fields (some colons) remaining rest

/-- The fields of a clock text. -/
def readClock? (text : Text) : Option Clock := readClockFrom? [] none 3 text

/-- A time of day and its offset in microseconds. Only in front of an offset may something be left
over behind the time. An offset of less than a second is none. -/
def readZoned? (text : Text) : Option (TimeOfDay × Option Int) := do
  let isSign (c : Char) : Bool := c = '+' || c = '-' || c = 'Z'
  let (front, zone) := text.span (!isSign ·)
  let clock ← readClock? front
  let field (i : Nat) : Nat := clock.fields[i]?.getD 0
  let time ← TimeOfDay.of? (field 0) (field 1) (field 2) clock.microsecond
  match zone with
  | [] => if clock.leftover then none else some (time, none)
  | 'Z' :: rest => if rest = [] then some (time, some 0) else none
  | sign :: rest =>
    let zone ← readClock? rest
    let field (i : Nat) : Nat := zone.fields[i]?.getD 0
    let seconds := field 0 * 3600 + field 1 * 60 + field 2
    let offset : Int := if seconds = 0 then 0 else (seconds * 1000000 + zone.microsecond : Nat)
    if zone.leftover || 86400 ≤ seconds then none
    else some (time, some (if sign = '-' then -offset else offset))

/-! ## Moments -/

/-- A moment from its text: a day, or a day, one character of any kind, and a time. -/
def Moment.readIso? (text : Text) : Option Moment := do
  let length ← dayLength? text
  let date ← readDay? (text.take length)
  match text.drop length with
  | [] => some { date }
  | _ :: rest =>
    let (time, offset) ← readZoned? rest
    some { date, time, offset }

end FormLetter
