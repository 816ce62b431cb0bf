import FormLetter.Text.Blank
import FormLetter.Text.Casing

/-!
# Abbreviations of business names

* `dropCompanySuffix`: a name without the word for its legal form at the end.
* `abbreviate`: the initials of a name.
-/

namespace FormLetter

open Text

/-- A letter without its case; the dotted and the dotless i count as an i. -/
def foldLetter (c : Char) : Char := if c = 'İ' || c = 'ı' then 'i' else c.toLower

/-- Whether a text is the word for a legal form, in any case. -/
def isCompanySuffix (text : Text) : Bool :=
  let folded := text.map foldLetter
  (["ltd", "inc", "corp", "llc", "co", "co."].map String.toList).contains folded ||
    match after? "pty".toList folded with
    | some rest => (afterBlanks? rest).any (· = "ltd".toList)
    | none => false

/-- A name without blanks and the word for its legal form at the end. -/
def dropCompanySuffix : Text → Text
  | [] => []
  | c :: rest =>
    if isBlank c && isCompanySuffix (stripLeft rest) then [] else c :: dropCompanySuffix rest

/-- The first characters of a text; a negative number leaves out that many at the end. -/
def takeInt (n : Int) (text : Text) : Text :=
  if 0 ≤ n then text.take n.toNat else text.take (text.length - n.natAbs)

/-- The initials of the words of a name without its legal form, in upper case, cut at a length. -/
def abbreviate (length : Int) (name : Text) : Text :=
  takeInt length ((words (dropCompanySuffix (strip name))).flatMap fun word =>
    (word.take 1).flatMap upperChar)

end FormLetter
