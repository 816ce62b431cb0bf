import FormLetter.Calendar.Iso
import FormLetter.Calendar.Layout
import FormLetter.Number.Binary64

/-!
# Reading dates

A date is read as a number of seconds since 1970, then after the international standard, then after
the layouts in common use: numbers with the year first, numbers with the day or the month first, and
names of months. Ordinal endings such as `1st` are dropped before the layouts are tried.

* `Moment.ofSeconds?`: the moment of a number of seconds, in universal time.
* `dropOrdinals`: a text without ordinal endings.
* `Moment.read?`: a moment from its text.

Main statements: `read?_blank` (nothing is read from blanks) and `read?_of_secondsOf?` (what is no
number of seconds is read after the standard or a layout).
-/

namespace FormLetter

open Text

/-! ## Seconds -/

/-- The number of the day 1 January 1970. -/
def epochDay : Nat := 719163

/-- The moment that lies a whole number of seconds and some microseconds after 1 January 1970. -/
def Moment.ofEpoch? (seconds : Int) (microsecond : Nat) : Option Moment := do
  let day := Int.fdiv seconds 86400 + epochDay
  let second := (Int.fmod seconds 86400).toNat
  if day < 1 then none
  else
    let date ← Date.ofOrdinal? day.toNat
    let time ← TimeOfDay.of? (second / 3600) (second / 60 % 60) (second % 60) microsecond
    some { date, time, offset := some 0 }

/-- The moment of a number of seconds. The fraction is taken to microseconds by a multiplication of
binary64 numbers, and the product rounded half to even. -/
def Moment.ofSeconds? (x : Binary64) : Option Moment := do
  let (negative, num, den) ← x.ratio?
  let whole : Int := (num / den : Nat)
  let (_, top, bottom) ← (Binary64.ofRatio false (num % den * 1000000) den).ratio?
  let micro := roundHalfEven top bottom
  let (whole, micro) := if 1000000 ≤ micro then (whole + 1, micro - 1000000) else (whole, micro)
  if negative then
    if micro = 0 then ofEpoch? (-whole) 0 else ofEpoch? (-whole - 1) (1000000 - micro)
  else ofEpoch? whole micro

/-- A number of seconds from its text: digits of any script, with a minus sign in front and a point
and further digits behind if need be. -/
def secondsOf? (text : Text) : Option Binary64 :=
  let (negative, text) :=
    match text with
    | '-' :: rest => (true, rest)
    | _ => (false, text)
  match text.span isDigit with
  | ([], _) => none
  | (whole, []) => some (.ofDecimal negative (digitsValue whole) 0)
  | (whole, '.' :: rest) =>
    if !rest.isEmpty && rest.all isDigit then
      some (.ofDecimal negative (digitsValue (whole ++ rest)) (-rest.length))
    else none
  | _ => none

/-! ## Ordinal endings -/

/-- Whether a character belongs to a word. Beyond ASCII every character that is no blank counts: no
layout holds one except as a digit, so this decides no reading. -/
def isWordLike (c : Char) : Bool := isWordChar c || (0x80 ≤ c.toNat && !isBlank c)

/-- Whether two letters are an ordinal ending, in any case; the long s counts as an s. -/
def isOrdinalEnding (a b : Char) : Bool :=
  let fold (c : Char) : Char := if c = 'ſ' then 's' else c.toLower
  [['s', 't'], ['n', 'd'], ['r', 'd'], ['t', 'h']].contains [fold a, fold b]

/-- One or two digits with an ordinal ending behind them, where a word ends: the digits and the rest
of the text. -/
def takeOrdinal? : Text → Option (Text × Text)
  | a :: b :: c :: rest =>
    if isDigit a && isOrdinalEnding b c && !rest.head?.any isWordLike then some ([a], rest)
    else
      match rest with
      | d :: rest =>
        if isDigit a && isDigit b && isOrdinalEnding c d && !rest.head?.any isWordLike then
          some ([a, b], rest)
        else none
      | [] => none
  | _ => none

theorem length_takeOrdinal?_lt {text digits rest : Text}
    (h : takeOrdinal? text = some (digits, rest)) :
    rest.length < text.length := by
  unfold takeOrdinal? at h
  split at h
  · split at h
    · simp only [Option.some.injEq, Prod.mk.injEq] at h
      obtain ⟨-, rfl⟩ := h
      simp only [List.length_cons]
      omega
    · split at h
      · split at h
        · simp only [Option.some.injEq, Prod.mk.injEq] at h
          obtain ⟨-, rfl⟩ := h
          simp only [List.length_cons]
          omega
        · simp at h
      · simp at h
  · simp at h

/-- The text without ordinal endings; `inWord` tells whether it continues a word. -/
def dropOrdinalsFrom (inWord : Bool) (text : Text) : Text :=
  match text with
  | [] => []
  | c :: rest =>
    match _h : if inWord then none else takeOrdinal? (c :: rest) with
    | some (digits, tail) => digits ++ dropOrdinalsFrom true tail
    | none => c :: dropOrdinalsFrom (isWordLike c) rest
  termination_by text.length
  decreasing_by
    · split at _h
      · simp at _h
      · exact length_takeOrdinal?_lt _h
    · simp

/-- The text without ordinal endings. -/
def dropOrdinals (text : Text) : Text := dropOrdinalsFrom false text

/-! ## Layouts -/

/-- Layouts with the year first. -/
def yearFirstLayouts : List (List LayoutItem) :=
  ["%Y-%m-%d", "%Y-%m-%d %H:%M", "%Y-%m-%d %H:%M:%S", "%Y-%m-%dT%H:%M", "%Y-%m-%dT%H:%M:%S",
    "%Y/%m/%d"].map fun pattern => layout pattern.toList

/-- Layouts of numbers with the day first. -/
def dayFirstLayouts : List (List LayoutItem) :=
  ["%d/%m/%Y", "%d-%m-%Y", "%d.%m.%Y", "%d/%m/%y", "%d/%m/%Y %H:%M", "%d/%m/%Y %H:%M:%S",
    "%d-%m-%Y %H:%M"].map fun pattern => layout pattern.toList

/-- Layouts of numbers with the month first. -/
def monthFirstLayouts : List (List LayoutItem) :=
  ["%m/%d/%Y", "%m-%d-%Y", "%m.%d.%Y", "%m/%d/%y", "%m/%d/%Y %H:%M", "%m/%d/%Y %H:%M:%S",
    "%m-%d-%Y %H:%M"].map fun pattern => layout pattern.toList

/-- Layouts with the name of the month. -/
def namedLayouts : List (List LayoutItem) :=
  ["%d %B %Y", "%d %b %Y", "%d %B, %Y", "%B %d %Y", "%B %d, %Y", "%b %d, %Y", "%b %d %Y",
    "%A %d %B %Y", "%A, %d %B %Y", "%A, %B %d, %Y", "%B %Y"].map
    fun pattern => layout pattern.toList

/-- All layouts in the order in which they are tried. -/
def layouts (dayFirst : Bool) : List (List LayoutItem) :=
  yearFirstLayouts ++
    (if dayFirst then dayFirstLayouts ++ monthFirstLayouts
      else monthFirstLayouts ++ dayFirstLayouts) ++
    namedLayouts

/-- The moment that a text stands for after the first layout that fits. -/
def readLayouts? (dayFirst : Bool) (text : Text) : Option Moment :=
  (layouts dayFirst).findSome? fun items => readLayout? items text

/-- A moment from its text. A number of seconds is never anything else. -/
def Moment.read? (dayFirst : Bool) (value : Text) : Option Moment :=
  let text := strip value
  if text = [] then none
  else
    match secondsOf? text with
    | some seconds => ofSeconds? seconds
    | none => (readIso? text).or (readLayouts? dayFirst (dropOrdinals text))

theorem Moment.read?_blank {value : Text} (h : strip value = []) (dayFirst : Bool) :
    Moment.read? dayFirst value = none := by
  simp [Moment.read?, h]

/-- A text that is no number of seconds is read after the standard, or else after a layout. -/
theorem Moment.read?_of_secondsOf? {value : Text} (hblank : strip value ≠ [])
    (hseconds : secondsOf? (strip value) = none) (dayFirst : Bool) :
    Moment.read? dayFirst value =
      (readIso? (strip value)).or (readLayouts? dayFirst (dropOrdinals (strip value))) := by
  simp [Moment.read?, hblank, hseconds]

end FormLetter
