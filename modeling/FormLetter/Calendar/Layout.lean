import FormLetter.Calendar.Date
import FormLetter.Text.Blank
import FormLetter.Text.Digit

/-!
# Date layouts

A layout says in which order the fields of a date stand and what stands between them. It is written
as a pattern: `%d`, `%m`, `%Y`, `%y`, `%H`, `%M` and `%S` for numbers, `%B`, `%b` and `%A` for
names, a blank for one or more blanks, and any other character for itself in any case.

* `LayoutItem`, `layout`: a layout as a list of items.
* `LayoutItem.readings`: the ways in which an item may be read, in order of preference.
* `readLayout?`: a date from its text after a layout.
-/

namespace FormLetter

open Text

/-! ## Names -/

/-- The names of the months. -/
def monthNames : List String :=
  ["January", "February", "March", "April", "May", "June", "July", "August", "September", "October",
    "November", "December"]

/-- The names of the days of the week, from Monday. -/
def weekdayNames : List String :=
  ["Monday", "Tuesday", "Wednesday", "Thursday", "Friday", "Saturday", "Sunday"]

/-- The first three letters of a name. -/
def abbreviated (name : String) : Text := name.toList.take 3

/-- What follows `front` in the text, if the text starts with it in any case. -/
def afterFolded? : Text → Text → Option Text
  | [], text => some text
  | _ :: _, [] => none
  | c :: front, d :: text => if c.toLower = d.toLower then afterFolded? front text else none

/-! ## Items -/

/-- A field of a date. -/
inductive DateField where
  | year
  | month
  | day
  | hour
  | minute
  | second
  deriving Repr, DecidableEq

/-- An item of a layout. -/
inductive LayoutItem where
  /-- A day of one or two digits. -/
  | day
  /-- A month of one or two digits. -/
  | month
  /-- A year of four digits. -/
  | year
  /-- A year of two digits, from 1969 to 2068. -/
  | shortYear
  /-- An hour of one or two digits. -/
  | hour
  /-- A minute of one or two digits. -/
  | minute
  /-- A second of one or two digits, up to 61. -/
  | second
  /-- The name of a month. -/
  | monthName
  /-- The first three letters of the name of a month. -/
  | monthAbbreviation
  /-- The name of a day of the week, which is not compared with the date. -/
  | weekdayName
  /-- One or more blanks. -/
  | blanks
  /-- A character. -/
  | char (c : Char)
  deriving Repr, DecidableEq

/-- A way to read an item: the field it sets, if any, with its value, and the rest of the text. -/
structure ItemReading where
  /-- The field that is set. -/
  field : Option (DateField × Nat)
  /-- The rest of the text. -/
  rest : Text

/-- The number of two digits, the first of them an ASCII digit that satisfies a test. -/
def twoDigits? (first : Nat → Bool) (second : Nat → Nat → Bool) (text : Text) :
    Option (Nat × Text) :=
  match text with
  | a :: b :: rest => do
    let high ← asciiDigit? a
    let low ← digitValue? b
    if first high && second high low then some (high * 10 + low, rest) else none
  | _ => none

/-- The number of one digit that satisfies a test. -/
def oneDigit? (test : Nat → Bool) (text : Text) : Option (Nat × Text) :=
  match text with
  | a :: rest => do
    let n ← digitValue? a
    if test n then some (n, rest) else none
  | _ => none

/-- The number of exactly `width` digits of any script. -/
def fixedDigits? (width : Nat) (text : Text) : Option (Nat × Text) :=
  let digits := text.take width
  if digits.length = width ∧ digits.all isDigit then some (digitsValue digits, text.drop width)
  else none

/-- The one-based place of the first name that stands in front of the text, with the rest. -/
def takeName? (names : List Text) (text : Text) : Option (Nat × Text) :=
  (names.zipIdx 1).findSome? fun (name, place) => (afterFolded? name text).map (place, ·)

/-- The ways to leave out one or more blanks in front of a text, the longest first. -/
def blankRests : Text → List Text
  | [] => []
  | c :: rest => if isBlank c then blankRests rest ++ [rest] else []

/-- Whether a character is an ASCII digit other than zero, where the digit has to be one. -/
def isAsciiDigitAt (text : Text) : Bool := text.head?.any Char.isDigit

/-- The ways to read an item in front of a text, in order of preference. -/
def LayoutItem.readings (item : LayoutItem) (text : Text) : List ItemReading :=
  let set (field : DateField) (found : List (Option (Nat × Text))) : List ItemReading :=
    found.filterMap fun reading => reading.map fun (n, rest) => ⟨some (field, n), rest⟩
  let single (text : Text) : Option (Nat × Text) :=
    if isAsciiDigitAt text then oneDigit? (1 ≤ ·) text else none
  let isAsciiAfter (text : Text) : Bool := isAsciiDigitAt (text.drop 1)
  match item with
  | .day =>
    set .day
      [twoDigits? (· = 3) (fun _ low => low ≤ 1 && isAsciiAfter text) text,
        twoDigits? (fun high => high = 1 || high = 2) (fun _ _ => true) text,
        twoDigits? (· = 0) (fun _ low => 1 ≤ low && isAsciiAfter text) text,
        single text,
        if text.head? = some ' ' then single (text.drop 1) else none]
  | .month =>
    set .month
      [twoDigits? (· = 1) (fun _ low => low ≤ 2 && isAsciiAfter text) text,
        twoDigits? (· = 0) (fun _ low => 1 ≤ low && isAsciiAfter text) text,
        single text]
  | .year => set .year [fixedDigits? 4 text]
  | .shortYear =>
    set .year
      [(fixedDigits? 2 text).map fun (n, rest) => (if n ≤ 68 then 2000 + n else 1900 + n, rest)]
  | .hour =>
    set .hour
      [twoDigits? (· = 2) (fun _ low => low ≤ 3 && isAsciiAfter text) text,
        twoDigits? (· ≤ 1) (fun _ _ => true) text,
        oneDigit? (fun _ => true) text]
  | .minute =>
    set .minute [twoDigits? (· ≤ 5) (fun _ _ => true) text, oneDigit? (fun _ => true) text]
  | .second =>
    set .second
      [twoDigits? (· = 6) (fun _ low => low ≤ 1 && isAsciiAfter text) text,
        twoDigits? (· ≤ 5) (fun _ _ => true) text,
        oneDigit? (fun _ => true) text]
  | .monthName => set .month [takeName? (monthNames.map String.toList) text]
  | .monthAbbreviation => set .month [takeName? (monthNames.map abbreviated) text]
  | .weekdayName =>
    ((takeName? (weekdayNames.map String.toList) text).map fun (_, rest) => ⟨none, rest⟩).toList
  | .blanks => (blankRests text).map (⟨none, ·⟩)
  | .char c => ((afterFolded? [c] text).map (⟨none, ·⟩)).toList

/-- The layout of a pattern. -/
def layout : Text → List LayoutItem
  | '%' :: 'd' :: rest => .day :: layout rest
  | '%' :: 'm' :: rest => .month :: layout rest
  | '%' :: 'Y' :: rest => .year :: layout rest
  | '%' :: 'y' :: rest => .shortYear :: layout rest
  | '%' :: 'H' :: rest => .hour :: layout rest
  | '%' :: 'M' :: rest => .minute :: layout rest
  | '%' :: 'S' :: rest => .second :: layout rest
  | '%' :: 'B' :: rest => .monthName :: layout rest
  | '%' :: 'b' :: rest => .monthAbbreviation :: layout rest
  | '%' :: 'A' :: rest => .weekdayName :: layout rest
  | ' ' :: rest => .blanks :: layout rest
  | c :: rest => .char c :: layout rest
  | [] => []

/-! ## Reading -/

/-- The fields of a date that are read so far. -/
structure DateFields where
  year : Nat := 1900
  month : Nat := 1
  day : Nat := 1
  hour : Nat := 0
  minute : Nat := 0
  second : Nat := 0
  deriving Repr, DecidableEq

/-- The fields with one of them set. -/
def DateFields.set (fields : DateFields) : Option (DateField × Nat) → DateFields
  | none => fields
  | some (.year, n) => { fields with year := n }
  | some (.month, n) => { fields with month := n }
  | some (.day, n) => { fields with day := n }
  | some (.hour, n) => { fields with hour := n }
  | some (.minute, n) => { fields with minute := n }
  | some (.second, n) => { fields with second := n }

/-- The fields that the items set, read in the first way in which all items can be read, and the
rest of the text. -/
def readItems? : List LayoutItem → DateFields → Text → Option (DateFields × Text)
  | [], fields, text => some (fields, text)
  | item :: items, fields, text =>
    (item.readings text).findSome? fun reading =>
      readItems? items (fields.set reading.field) reading.rest

/-- The moment that a text stands for after a layout. Nothing may be left over, and the day has to
exist. -/
def readLayout? (items : List LayoutItem) (text : Text) : Option Moment :=
  match readItems? items {} text with
  | some (fields, []) =>
    Moment.of? fields.year fields.month fields.day fields.hour fields.minute fields.second
  | _ => none

end FormLetter
