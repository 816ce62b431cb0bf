import FormLetter.Text.Surrogate
import FormLetter.Value

/-!
# Tokens of JSON text

* `Json.Token`: punctuation and scalars.
* `Json.takeString?`, `Json.takeNumber?`: a string and a number in front of a text.
* `Json.tokens?`: the tokens of a text.

Besides the numbers of the standard, `NaN`, `Infinity` and `-Infinity` are numbers. A string holds
no control characters; half of a surrogate pair on its own stays a surrogate.
-/

namespace FormLetter

namespace Json

/-- A token. -/
inductive Token where
  /-- `[` -/
  | openList
  /-- `]` -/
  | closeList
  /-- `{` -/
  | openMap
  /-- `}` -/
  | closeMap
  /-- `,` -/
  | comma
  /-- `:` -/
  | colon
  /-- A string, a number or a word. -/
  | scalar (value : Value)
  deriving Repr

/-! ## Strings -/

/-- The value of a hexadecimal digit. -/
def hexDigit? (c : Char) : Option Nat :=
  if c.isDigit then some (c.toNat - 0x30)
  else if 'a' ≤ c ∧ c ≤ 'f' then some (c.toNat - 0x61 + 10)
  else if 'A' ≤ c ∧ c ≤ 'F' then some (c.toNat - 0x41 + 10)
  else none

/-- The number written by hexadecimal digits. -/
def hexValue? (digits : Text) : Option Nat :=
  digits.foldlM (fun n c => (hexDigit? c).map (n * 16 + ·)) 0

/-- The character of an escape other than `\u`. -/
def escaped? : Char → Option Char
  | '"' => some '"'
  | '\\' => some '\\'
  | '/' => some '/'
  | 'b' => some '\x08'
  | 'f' => some '\x0c'
  | 'n' => some '\n'
  | 'r' => some '\r'
  | 't' => some '\t'
  | _ => none

/-- The code units up to the closing quote and what follows it. -/
def takeString? : Text → Option (List Nat × Text)
  | [] => none
  | c :: rest =>
    if c = '"' then some ([], rest)
    else if c = '\\' then
      match rest with
      | 'u' :: h₁ :: h₂ :: h₃ :: h₄ :: tail => do
        let unit ← hexValue? [h₁, h₂, h₃, h₄]
        let (units, after) ← takeString? tail
        some (unit :: units, after)
      | e :: tail => do
        let char ← escaped? e
        let (units, after) ← takeString? tail
        some (char.toNat :: units, after)
      | [] => none
    else if c.toNat < 0x20 then none
    else do
      let (units, after) ← takeString? rest
      some (c.toNat :: units, after)

/-- Code units as text: a high surrogate and the low one behind it make one character. -/
def joinUnits : List Nat → Text
  | [] => []
  | high :: low :: units =>
    if 0xD800 ≤ high ∧ high < 0xDC00 ∧ 0xDC00 ≤ low ∧ low < 0xE000 then
      Char.ofNat (0x10000 + (high - 0xD800) * 0x400 + (low - 0xDC00)) :: joinUnits units
    else Text.ofCodePoint high :: joinUnits (low :: units)
  | [high] => [Text.ofCodePoint high]

/-! ## Numbers -/

/-- The digits of a whole part: a zero alone, or digits that do not start with zero. -/
def takeWhole? (text : Text) : Option (Text × Text) :=
  match text with
  | '0' :: rest => some (['0'], rest)
  | _ =>
    match text.span Char.isDigit with
    | ([], _) => none
    | (digits, rest) => some (digits, rest)

/-- A point with digits behind it; without them nothing is taken. -/
def takeFraction (text : Text) : Text × Text :=
  match text with
  | '.' :: rest =>
    match rest.span Char.isDigit with
    | ([], _) => ([], text)
    | (digits, tail) => (digits, tail)
  | _ => ([], text)

/-- An exponent mark with a sign and digits behind it; without digits nothing is taken. -/
def takeExponent (text : Text) : Option Int × Text :=
  match text with
  | e :: rest =>
    if e = 'e' || e = 'E' then
      let (negative, tail) :=
        match rest with
        | '-' :: tail => (true, tail)
        | '+' :: tail => (false, tail)
        | _ => (false, rest)
      match tail.span Char.isDigit with
      | ([], _) => (none, text)
      | (digits, tail) =>
        let n : Int := Text.digitsNumber digits
        (some (if negative then -n else n), tail)
    else (none, text)
  | [] => (none, text)

/-- The number with a sign, a whole part, a fraction and an exponent. -/
def numberValue (negative : Bool) (whole fraction : Text) (exponent : Option Int) : Value :=
  if fraction = [] && exponent.isNone then
    let n : Int := Text.digitsNumber whole
    .int (if negative then -n else n)
  else
    .float (.ofDecimal negative (Text.digitsNumber (whole ++ fraction))
      (exponent.getD 0 - fraction.length))

/-- A number in front of a text, and what follows it. -/
def takeNumber? (text : Text) : Option (Value × Text) := do
  let (negative, rest) :=
    match text with
    | '-' :: rest => (true, rest)
    | _ => (false, text)
  match Text.after? "Infinity".toList rest with
  | some tail => some (.float (.infinite negative), tail)
  | none =>
    let (whole, rest) ← takeWhole? rest
    let (fraction, rest) := takeFraction rest
    let (exponent, rest) := takeExponent rest
    some (numberValue negative whole fraction exponent, rest)

/-! ## Tokens -/

/-- The words of JSON. -/
def words : List (String × Value) :=
  [("null", .null), ("true", .bool true), ("false", .bool false), ("NaN", .float .nan)]

/-- The scalar in front of a text, and what follows it. -/
def takeScalar? (text : Text) : Option (Value × Text) :=
  match text with
  | '"' :: rest => (takeString? rest).map fun (units, tail) => (.text (joinUnits units), tail)
  | _ =>
    match words.findSome? fun word => (Text.after? word.1.toList text).map (word.2, ·) with
    | some found => some found
    | none => takeNumber? text

/-- The token of a punctuation character. -/
def punctuation? : Char → Option Token
  | '[' => some .openList
  | ']' => some .closeList
  | '\x7b' => some .openMap
  | '\x7d' => some .closeMap
  | ',' => some .comma
  | ':' => some .colon
  | _ => none

/-- Whether a character may stand between tokens. -/
def isSpace (c : Char) : Bool := c = ' ' || c = '\t' || c = '\n' || c = '\r'

/-- The tokens of a text. A scalar takes at least one character, so the rest is shorter. -/
def tokens? (text : Text) : Option (List Token) :=
  match text with
  | [] => some []
  | c :: rest =>
    if isSpace c then tokens? rest
    else
      match punctuation? c with
      | some token => (tokens? rest).map (token :: ·)
      | none =>
        match takeScalar? (c :: rest) with
        | none => none
        | some (value, tail) =>
          if _h : tail.length < (c :: rest).length then
            (tokens? tail).map (.scalar value :: ·)
          else none
  termination_by text.length
  decreasing_by
    · simp
    · simp
    · exact _h

end Json

end FormLetter
