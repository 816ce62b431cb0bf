import FormLetter.Text.Basic

/-!
# Escaping values

A value is put into markup as character data: `&`, `<` and `>` become references, and so do the
braces, if they are escaped too, so that a value never opens a tag. The references are put in one
kind of character after the other, the ampersand first.

* `markupEscapes`, `braceEscapes`: the characters and their references.
* `escapeValue`: the escaped value.
-/

namespace FormLetter

/-- The characters that markup gives a meaning, with their references. -/
def markupEscapes : List (Text × Text) :=
  [(['&'], "&amp;".toList), (['<'], "&lt;".toList), (['>'], "&gt;".toList)]

/-- The braces with their references. -/
def braceEscapes : List (Text × Text) := [(['{'], "&#123;".toList), (['}'], "&#125;".toList)]

/-- A value as character data. -/
def escapeValue (escapeBraces : Bool) (value : Text) : Text :=
  let escaped := Text.replaceEach markupEscapes value
  if escapeBraces then Text.replaceEach braceEscapes escaped else escaped

end FormLetter
