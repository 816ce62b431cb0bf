import FormLetter.Value

/-!
# Writing JSON

Only ASCII characters are written: every other character stands as the escape of its code units.

* `Json.compact`: a value on one line, without blanks.
* `Json.spaced`: a value on one line, with a blank behind each comma and colon.
* `Json.indented`: a value over several lines, two blanks deeper at each level.
-/

namespace FormLetter

namespace Json

/-! ## Scalars -/

/-- The escape of a code unit. -/
def escapeUnit (n : Nat) : Text := '\\' :: 'u' :: Text.hexadecimal 4 n

/-- A character inside a string. -/
def escapeChar (c : Char) : Text :=
  let n := Text.codePoint c
  if c = '"' then "\\\"".toList
  else if c = '\\' then "\\\\".toList
  else if c = '\n' then "\\n".toList
  else if c = '\r' then "\\r".toList
  else if c = '\t' then "\\t".toList
  else if c = '\x0c' then "\\f".toList
  else if c = '\x08' then "\\b".toList
  else if 0x20 ≤ n ∧ n < 0x7F then [c]
  else if n < 0x10000 then escapeUnit n
  else escapeUnit (0xD800 + (n - 0x10000) / 0x400) ++ escapeUnit (0xDC00 + (n - 0x10000) % 0x400)

/-- A string between quotes. -/
def string (text : Text) : Text := '"' :: text.flatMap escapeChar ++ ['"']

/-- A number that may be infinite or none. -/
def float (x : Binary64) : Text :=
  match x with
  | .nan => "NaN".toList
  | .infinite negative => Binary64.signText negative ++ "Infinity".toList
  | _ => x.text

/-- The key of a mapping. -/
def key : Value → Text
  | .text k => string k
  | value => string value.shown

/-! ## Layouts -/

/-- How lists and mappings are laid out. -/
structure Layout where
  /-- What stands behind a comma on the same line. -/
  afterComma : Text
  /-- What stands behind a colon. -/
  afterColon : Text
  /-- The blanks of one level of indentation, if every item has a line of its own. -/
  indent : Option Nat

namespace Layout

/-- The line break in front of an item at a depth, if items have lines of their own. -/
def lineBreak (layout : Layout) (depth : Nat) : Text :=
  match layout.indent with
  | some width => '\n' :: List.replicate (width * depth) ' '
  | none => []

/-- Items between brackets. -/
def bracket (layout : Layout) (opening closing : Char) (depth : Nat) : List Text → Text
  | [] => [opening, closing]
  | items =>
    let between :=
      match layout.indent with
      | some _ => ',' :: layout.lineBreak (depth + 1)
      | none => ',' :: layout.afterComma
    opening :: layout.lineBreak (depth + 1) ++ Text.joinWith between items ++
      layout.lineBreak depth ++
      [closing]

mutual

/-- A value at a depth of nesting. -/
def write (layout : Layout) (depth : Nat) : Value → Text
  | .null => "null".toList
  | .bool true => "true".toList
  | .bool false => "false".toList
  | .int n => Value.intText n
  | .float x => float x
  | .text s => string s
  | .list items | .set items => layout.bracket '[' ']' depth (layout.writeItems (depth + 1) items)
  | .map entries | .pairs entries =>
    layout.bracket '\x7b' '\x7d' depth (layout.writeEntries (depth + 1) entries)
  | value => string value.shown

/-- The items of a list. -/
def writeItems (layout : Layout) (depth : Nat) : List Value → List Text
  | [] => []
  | item :: items => layout.write depth item :: layout.writeItems depth items

/-- The entries of a mapping. -/
def writeEntries (layout : Layout) (depth : Nat) : List (Value × Value) → List Text
  | [] => []
  | (k, value) :: entries =>
    (key k ++ ':' :: layout.afterColon ++ layout.write depth value) ::
      layout.writeEntries depth entries

end

end Layout

/-- A value on one line, without blanks. -/
def compact (value : Value) : Text := Layout.write ⟨[], [], none⟩ 0 value

/-- A value on one line, with a blank behind each comma and colon. -/
def spaced (value : Value) : Text := Layout.write ⟨[' '], [' '], none⟩ 0 value

/-- A value over several lines, two blanks deeper at each level. -/
def indented (value : Value) : Text := Layout.write ⟨[], [' '], some 2⟩ 0 value

end Json

end FormLetter
