import FormLetter.Text.Printable
import FormLetter.Text.Surrogate

/-!
# Quoted texts

A text inside a list, a mapping or a message about a name is written between quotes: single quotes,
or double quotes if the text holds a single quote and no double quote. Inside, the backslash and
the enclosing quote are escaped by a backslash, tab, line feed and carriage return by their letter,
and every other unprintable character by its code point in two, four or eight hexadecimal digits.
-/

namespace FormLetter

namespace Text

/-- `width` hexadecimal digits of a number. -/
def hexadecimal (width n : Nat) : Text :=
  let digits := Nat.toDigits 16 n
  List.replicate (width - digits.length) '0' ++ digits

/-- The quote that encloses a text. -/
def enclosingQuote (text : Text) : Char :=
  if text.contains '\'' && !text.contains '"' then '"' else '\''

/-- A character as it is written between quotes. -/
def quotedChar (quote c : Char) : Text :=
  let n := codePoint c
  if c = quote || c = '\\' then ['\\', c]
  else if c = '\t' then ['\\', 't']
  else if c = '\n' then ['\\', 'n']
  else if c = '\r' then ['\\', 'r']
  else if isPrintable c then [c]
  else if n < 0x100 then '\\' :: 'x' :: hexadecimal 2 n
  else if n < 0x10000 then '\\' :: 'u' :: hexadecimal 4 n
  else '\\' :: 'U' :: hexadecimal 8 n

/-- A text between quotes. -/
def quoted (text : Text) : Text :=
  let quote := enclosingQuote text
  quote :: text.flatMap (quotedChar quote) ++ [quote]

end Text

end FormLetter
