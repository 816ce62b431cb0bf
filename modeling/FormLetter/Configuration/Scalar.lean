import FormLetter.Configuration.Problem
import FormLetter.Number.Reading
import FormLetter.Text.Blank

/-!
# Lenient scalars

A configuration may write a scalar in more than one way: a number or a truth value may stand in a
text, a truth value counts as a number, and a number without fraction counts as an integer.

* `Scalar.text`, `Scalar.integer`, `Scalar.truth`, `Scalar.number`: the value meant, or the cause
  for refusing it.
-/

namespace FormLetter

open Text

namespace Scalar

/-- The text of bytes, if they encode one. -/
def decoded? (content : List UInt8) : Option Text :=
  (String.fromUTF8? ⟨content.toArray⟩).map String.toList

/-- Whether a character is a space of running text: a blank other than the four separators among the
controls. -/
def isSpacing (c : Char) : Bool := isBlank c && !(0x1C ≤ c.toNat && c.toNat ≤ 0x1F)

/-- A text without the spacing at its two ends. -/
def trimmed (text : Text) : Text :=
  ((text.dropWhile isSpacing).reverse.dropWhile isSpacing).reverse

/-- The text that a value holds, if it is a text or bytes. -/
def heldText? : Value → Option (Except Problem.Cause Text)
  | .text s => some (.ok s)
  | .bytes content =>
    match decoded? content with
    | some s => some (.ok s)
    | none => some (.error .notEncodedText)
  | _ => none

/-- The text meant by a value. -/
def text (value : Value) : Except Problem.Cause Text := (heldText? value).getD (.error .notText)

/-! ## Digits in groups -/

/-- A text without the underscores that stand alone between other characters; nothing if an
underscore stands anywhere else. -/
def ungrouped? : Text → Option Text
  | [] => some []
  | '_' :: _ => none
  | [c] => some [c]
  | c :: '_' :: d :: rest => if d = '_' then none else (ungrouped? (d :: rest)).map (c :: ·)
  | c :: rest => (ungrouped? rest).map (c :: ·)

/-! ## Integers -/

/-- A text without a point and zeros behind it. -/
def withoutZeroFraction (text : Text) : Text :=
  match cutAt '.' text with
  | (whole, some zeros) => if zeros.all (· = '0') then whole else text
  | (_, none) => text

/-- The integer that a text means: digits, single underscores between them, a sign in front, and a
point with zeros behind it. -/
def readInteger? (text : Text) : Option Int := do
  let (negative, digits) := Binary64.takeSign (withoutZeroFraction (trimmed text))
  let digits ← ungrouped? digits
  if digits.isEmpty || !digits.all Char.isDigit then none
  else
    let n : Int := digitsNumber digits
    some (if negative then -n else n)

/-- The integer that a number with a point means. -/
def wholeNumber (x : Binary64) : Except Problem.Cause Int :=
  match x.truncate? with
  | none => .error .infinite
  | some n =>
    if !x.isInteger then .error .fractional
    else if n.natAbs < Nat.pow 2 63 then .ok n
    else .error .oversizedInteger

/-- The integer meant by a value. -/
def integer (value : Value) : Except Problem.Cause Int :=
  match value with
  | .int n => .ok n
  | .bool b => .ok (if b then 1 else 0)
  | .float x => wholeNumber x
  | _ =>
    match heldText? value with
    | none => .error .notInteger
    | some (.error cause) => .error cause
    | some (.ok text) =>
      match readInteger? text with
      | some n => .ok n
      | none => .error .unreadableInteger

/-! ## Truth values -/

/-- The words for true. -/
def trueWords : List String := ["1", "on", "t", "true", "y", "yes"]

/-- The words for false. -/
def falseWords : List String := ["0", "off", "f", "false", "n", "no"]

/-- The truth value that a word means, in any case. -/
def readTruth? (text : Text) : Option Bool :=
  let word := String.ofList (text.map Char.toLower)
  if trueWords.contains word then some true
  else if falseWords.contains word then some false
  else none

/-- The truth value that an integer means. -/
def truthOfInt (n : Int) : Except Problem.Cause Bool :=
  if n = 1 then .ok true else if n = 0 then .ok false else .error .unreadableTruth

/-- The truth value meant by a value. -/
def truth (value : Value) : Except Problem.Cause Bool :=
  match value with
  | .bool b => .ok b
  | .int n => if n.natAbs < Nat.pow 2 63 then truthOfInt n else .error .notTruth
  | .float x =>
    match wholeNumber x with
    | .ok n => truthOfInt n
    | .error _ => .error .notTruth
  | _ =>
    match heldText? value with
    | none => .error .notTruth
    | some (.error cause) => .error cause
    | some (.ok text) =>
      match readTruth? text with
      | some b => .ok b
      | none => .error .unreadableTruth

/-! ## Numbers -/

/-- The number that a text means. -/
def readNumber? (text : Text) : Option Binary64 :=
  (Binary64.read? (trimmed text)).or ((ungrouped? text).bind Binary64.read?)

/-- The number meant by a value. -/
def number (value : Value) : Except Problem.Cause Binary64 :=
  match value with
  | .float x => .ok x
  | .int n =>
    match Binary64.ofInt n with
    | .infinite _ => .error .notNumber
    | x => .ok x
  | .bool b => .ok (.ofInt (if b then 1 else 0))
  | _ =>
    match heldText? value with
    | none => .error .notNumber
    | some (.error cause) => .error cause
    | some (.ok text) =>
      match readNumber? text with
      | some x => .ok x
      | none => .error .unreadableNumber

end Scalar

end FormLetter
