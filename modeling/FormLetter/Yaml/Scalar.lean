import FormLetter.Calendar.Date
import FormLetter.Number.Extended
import FormLetter.Number.Reading
import FormLetter.Text.Blank
import FormLetter.Text.Digit
import FormLetter.Value
import FormLetter.Yaml.Fault
import FormLetter.Yaml.Tag

/-!
# The values of YAML scalars

* `readInteger`: decimal integers and those in base two, eight, sixteen and sixty.
* `readNumber`: numbers with a point, also in base sixty, and the special numbers.
* `readMoment`: a day, or a point in time.
* `readBytes?`: bytes in base 64.
* `Tag.read`: the value of a scalar with a tag.
-/

namespace FormLetter

namespace Yaml

open Text

/-- A text without underscores. -/
def withoutUnderscores (text : Text) : Text := text.filter (· ≠ '_')

/-- Whether a text starts with a minus sign, and the text without its sign. A text without
characters has no digits. -/
def splitSign (text : Text) : Except Fault (Bool × Text) :=
  match text with
  | [] => .error .noDigits
  | '-' :: rest => .ok (true, rest)
  | '+' :: rest => .ok (false, rest)
  | _ => .ok (false, text)

/-! ## Integers -/

/-- The value of a digit, where letters go on after nine. -/
def digitOf? (c : Char) : Option Nat :=
  match digitValue? c with
  | some n => some n
  | none =>
    if 'a' ≤ c.toLower && c.toLower ≤ 'z' then some (c.toLower.toNat - 0x61 + 10) else none

/-- The number that digits stand for in a base. -/
def digitsIn? (base : Nat) (digits : Text) : Option Nat :=
  if digits.isEmpty then none
  else
    digits.foldlM (fun n c => do
      let digit ← digitOf? c
      if digit < base then some (n * base + digit) else none) 0

/-- The integer that a text stands for in a base, with blanks around it and a sign if need be. -/
def integerIn (base : Nat) (text : Text) : Except Fault Int :=
  let (negative, digits) := Binary64.takeSign (strip text)
  match digitsIn? base digits with
  | some n => .ok (if negative then -(n : Int) else n)
  | none => .error (.noInteger base text)

/-- The integer of groups in base sixty. -/
def sexagesimal (groups : List Int) : Int := groups.foldl (fun n group => n * 60 + group) 0

/-- The integer that a text without sign stands for. -/
def unsignedInteger (text : Text) : Except Fault Int :=
  match text with
  | [] => .error .noDigits
  | ['0'] => .ok 0
  | '0' :: 'b' :: digits => integerIn 2 digits
  | '0' :: 'x' :: digits => integerIn 16 digits
  | '0' :: _ => integerIn 8 text
  | _ =>
    if text.contains ':' then ((splitOn ':' text).mapM (integerIn 10)).map sexagesimal
    else integerIn 10 text

/-- The integer that a scalar stands for. -/
def readInteger (text : Text) : Except Fault Int := do
  let (negative, digits) ← splitSign (withoutUnderscores text)
  let n ← unsignedInteger digits
  .ok (if negative then -n else n)

/-! ## Numbers with a point -/

/-- A number with the other sign. -/
def negated : Binary64 → Binary64
  | .finite negative mantissa exponent => .finite (!negative) mantissa exponent
  | .infinite negative => .infinite (!negative)
  | .nan => .nan

/-- The number that a text stands for, with blanks around it if need be. -/
def numberOf (text : Text) : Except Fault Binary64 :=
  match Binary64.read? (strip text) with
  | some x => .ok x
  | none => .error (.noNumber text)

/-- The sum of two exact values, rounded. -/
def roundedSum (a b : Extended) : Extended :=
  match a, b with
  | .finite p, .finite q => .ofBinary64 (Extended.finite (p + q)).round
  | .undefined, _ | _, .undefined => .undefined
  | .finite _, other | other, _ => other

/-- The number of groups in base sixty, the last one first; every step is rounded. -/
def sexagesimalNumber : Int → List Binary64 → Extended → Extended
  | _, [], sum => sum
  | unit, group :: groups, sum =>
    let product := Extended.ofBinary64 ((Extended.ofBinary64 group).scale unit).round
    sexagesimalNumber (unit * 60) groups (roundedSum sum product)

/-- The number that a scalar stands for. -/
def readNumber (text : Text) : Except Fault Binary64 := do
  let (negative, digits) ← splitSign ((withoutUnderscores text).map Char.toLower)
  let sign (x : Binary64) : Binary64 := if negative then negated x else x
  if digits = ".inf".toList then .ok (.infinite negative)
  else if digits = ".nan".toList then .ok .nan
  else if digits.contains ':' then
    let groups ← (splitOn ':' digits).mapM numberOf
    .ok (sign (sexagesimalNumber 1 groups.reverse (.finite 0)).round)
  else (numberOf digits).map sign

/-! ## Points in time -/

/-- Accepts a field within its range. -/
def within (field least greatest : Nat) (wording : String) : Except Fault Unit :=
  if least ≤ field && field ≤ greatest then .ok () else .error (.outOfRange wording)

/-- The offset from universal time in seconds; it is less than a day. -/
def offsetOf (sign : Char) (hours minutes : Text) : Except Fault Int :=
  let seconds : Int := digitsNumber hours * 3600 + digitsNumber minutes * 60
  let offset := if sign = '-' then -seconds else seconds
  if offset.natAbs < 86400 then .ok offset
  else
    .error (.outOfRange (("offset must be a timedelta strictly between -timedelta(hours=24) and " ++
      "timedelta(hours=24), not ") ++ String.ofList (Value.durationText offset) ++ "."))

/-- The offset from universal time that is written. -/
def zoneOf : Option (Option Char × Text × Text) → Except Fault (Option Int)
  | none => .ok none
  | some (none, _, _) => .ok (some 0)
  | some (some sign, hours, minutes) => (offsetOf sign hours minutes).map some

/-- Accepts a day that exists. -/
def checkDay (year month day : Nat) : Except Fault Unit := do
  within year 1 9999 s!"year {year} is out of range"
  within month 1 12 "month must be in 1..12"
  within day 1 (daysInMonth year month) "day is out of range for month"

/-- Accepts a time of day that exists. -/
def checkClock (hour minute second : Nat) : Except Fault Unit := do
  within hour 0 23 "hour must be in 0..23"
  within minute 0 59 "minute must be in 0..59"
  within second 0 59 "second must be in 0..59"

/-- The microseconds of the digits of a fraction; those beyond the sixth do not count. -/
def microseconds (fraction : Text) : Nat :=
  let digits := fraction.take 6
  digitsNumber digits * Nat.pow 10 (6 - digits.length)

/-- The day or the point in time that a scalar stands for. -/
def readMoment (text : Text) : Except Fault Value := do
  match MomentText.read? text with
  | none => .error .noMoment
  | some fields =>
    match fields.day.map digitsNumber, fields.clock.map digitsNumber with
    | [year, month, day], [hour, minute, second] =>
      let offset ← zoneOf fields.zone
      checkDay year month day
      checkClock hour minute second
      .ok (.moment [year, month, day, hour, minute, second, microseconds fields.fraction] offset)
    | [year, month, day], _ =>
      checkDay year month day
      .ok (.date year month day)
    | _, _ => .error .noMoment

/-! ## Bytes -/

/-- The six bits of a character in base 64. -/
def sixBits? (c : Char) : Option Nat :=
  let n := c.toNat
  if 'A' ≤ c && c ≤ 'Z' then some (n - 0x41)
  else if 'a' ≤ c && c ≤ 'z' then some (n - 0x61 + 26)
  else if c.isDigit then some (n - 0x30 + 52)
  else if c = '+' then some 62
  else if c = '/' then some 63
  else none

/-- The bytes of four groups of six bits, of which the last ones may be missing. -/
def groupBytes : List Nat → List UInt8
  | a :: b :: rest =>
    (a * 4 + b / 16).toUInt8 ::
      match rest with
      | [] => []
      | [c] => [(b % 16 * 16 + c / 4).toUInt8]
      | c :: d :: _ => [(b % 16 * 16 + c / 4).toUInt8, (c % 4 * 64 + d).toUInt8]
  | _ => []

/-- The bytes of characters in base 64. Others are passed over; a group that is not full must be
filled up by signs of equality, which end the bytes. `group` holds the bits of the group begun, and
`pads` counts the signs behind it. -/
def decode64? (group : List Nat) (pads : Nat) : Text → Option (List UInt8)
  | [] => if group.isEmpty then some [] else none
  | c :: rest =>
    if c = '=' then
      if 2 ≤ group.length && 4 ≤ group.length + (pads + 1) then some (groupBytes group)
      else decode64? group (pads + if 2 ≤ group.length then 1 else 0) rest
    else
      match sixBits? c with
      | none => decode64? group pads rest
      | some bits =>
        match group with
        | [_, _, _] => (decode64? [] 0 rest).map (groupBytes (group ++ [bits]) ++ ·)
        | _ => decode64? (group ++ [bits]) 0 rest

/-- The bytes that a scalar stands for. -/
def readBytes? (text : Text) : Option (List UInt8) :=
  if text.all fun c => c.toNat < 0x80 then decode64? [] 0 text else none

/-! ## Scalars -/

/-- The truth value that a scalar stands for. -/
def readTruth (text : Text) : Except Fault Bool :=
  match truthWords.find? fun word => word.1.toList = text.map Char.toLower with
  | some (_, truth) => .ok truth
  | none => .error .noTruthWord

/-- The value of a scalar with a tag. -/
def Tag.read (tag : Tag) (content : Text) : Except Fault Value :=
  match tag with
  | .null => .ok .null
  | .truth => (readTruth content).map .bool
  | .integer => (readInteger content).map .int
  | .number => (readNumber content).map .float
  | .bytes =>
    match readBytes? content with
    | some content => .ok (.bytes content)
    | none => .error .malformed
  | .moment => readMoment content
  | .text => .ok (.text content)
  | _ => .error .malformed

end Yaml

end FormLetter
