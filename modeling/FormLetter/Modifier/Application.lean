import FormLetter.Calendar.Rendering
import FormLetter.Modifier.Basic
import FormLetter.Modifier.Phone
import FormLetter.Text.Casing

/-!
# Applying modifiers

Every modifier gives a text for every value: a date that cannot be read stays as it is, and a phone
number with too few digits fills what it can.

* `upperWords`, `upperFirst`: upper case for the first character of every word, and of the text.
* `Modifier.apply`, `applyChain`: a modifier and a chain of modifiers applied to a value.
-/

namespace FormLetter

open Text

/-- Upper case for the first character of every word; `inWord` tells whether the text continues a
word. -/
def upperWordsFrom (inWord : Bool) : Text → Text
  | [] => []
  | c :: rest =>
    if isBlank c then c :: upperWordsFrom false rest
    else (if inWord then [c] else upperChar c) ++ upperWordsFrom true rest

/-- Upper case for the first character of every word. -/
def upperWords (value : Text) : Text := upperWordsFrom false value

/-- Upper case for the first character of a text. -/
def upperFirst : Text → Text
  | [] => []
  | c :: rest => upperChar c ++ rest

/-- A modifier applied to a value; `dayFirst` tells how dates of numbers are read. -/
def Modifier.apply (dayFirst : Bool) (modifier : Modifier) (value : Text) : Text :=
  match modifier with
  | .upper => Text.upper value
  | .lower => Text.lower value
  | .ucwords => upperWords value
  | .ucfirst => upperFirst value
  | .phoneFormat pattern => formatPhone pattern value
  | .dateFormat pattern => reformatDate dayFirst pattern value
  | .replace sought new => replaceAll sought new value

/-- Modifiers applied to a value from left to right. -/
def applyChain (dayFirst : Bool) (modifiers : List Modifier) (value : Text) : Text :=
  modifiers.foldl (fun value modifier => modifier.apply dayFirst value) value

end FormLetter
