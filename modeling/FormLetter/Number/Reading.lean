import FormLetter.Number.Binary64
import FormLetter.Text.Basic

/-!
# Reading numbers with a point

A numeral is a run of digits with at most one point in it, and an exponent behind it if need be. It
reads as the nearest number.

* `Binary64.readNumeral?`: a numeral without sign.
* `Binary64.read?`: a numeral or the name of a special number, with a sign if need be.
-/

namespace FormLetter

namespace Binary64

/-- The sign in front of a numeral, and what follows it. -/
def takeSign : Text → Bool × Text
  | '-' :: rest => (true, rest)
  | '+' :: rest => (false, rest)
  | text => (false, text)

/-- The exponent behind the digits of a numeral; no text means zero. -/
def readExponent? : Text → Option Int
  | [] => some 0
  | mark :: rest =>
    if mark = 'e' || mark = 'E' then
      let (negative, digits) := takeSign rest
      if digits.isEmpty || !digits.all Char.isDigit then none
      else
        let n : Int := Text.digitsNumber digits
        some (if negative then -n else n)
    else none

/-- The number of a numeral without sign. -/
def readNumeral? (negative : Bool) (text : Text) : Option Binary64 := do
  let (whole, rest) := text.span Char.isDigit
  let (fraction, rest) :=
    match rest with
    | '.' :: tail => tail.span Char.isDigit
    | _ => ([], rest)
  if whole.isEmpty && fraction.isEmpty then none
  else
    let exponent ← readExponent? rest
    some (ofDecimal negative (Text.digitsNumber (whole ++ fraction)) (exponent - fraction.length))

/-- The number of a numeral, or of the words for infinity and for no number in any case. -/
def read? (text : Text) : Option Binary64 :=
  let (negative, rest) := takeSign text
  let word := rest.map Char.toLower
  if word = "inf".toList || word = "infinity".toList then some (infinite negative)
  else if word = "nan".toList then some nan
  else readNumeral? negative rest

end Binary64

end FormLetter
