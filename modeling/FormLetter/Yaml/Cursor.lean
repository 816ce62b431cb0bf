import FormLetter.Text.Basic

/-!
# Positions in a YAML stream

Whether a character starts a token of YAML depends on the line and the column where it stands.

* `isBreak`, `atGap`: the characters that end a line, and the places that end a word.
* `startsMarker`: whether a line starts with the marker of a document's start or end.
* `Cursor`: the text that is left, with its position.
* `Cursor.skip`: the cursor some characters further on.

Line breaks are the line feed and the three Unicode breaks; a carriage return is expected to have
been read as a line feed.
-/

namespace FormLetter

namespace Yaml

/-! ## Characters -/

/-- Whether a character ends a line. -/
def isBreak (c : Char) : Bool :=
  c = '\n' || c = '\u0085' || c = '\u2028' || c = '\u2029'

/-- A line break as it counts in a value: the line feed, or a separator of lines or paragraphs. -/
def breakChar (c : Char) : Char := if c = '\u0085' then '\n' else c

/-- Whether a character is a space or a tab. -/
def isSpaceOrTab (c : Char) : Bool := c = ' ' || c = '\t'

/-- Whether a character ends a word: a space, a tab or a line break. -/
def isGap (c : Char) : Bool := isSpaceOrTab c || isBreak c

/-- Whether a character may stand in a stream at all. -/
def isAllowed (c : Char) : Bool :=
  let n := c.toNat
  n = 0x09 || n = 0x0A || n = 0x0D || (0x20 ≤ n && n ≤ 0x7E) || n = 0x85 ||
    (0xA0 ≤ n && n ≤ 0xD7FF) || (0xE000 ≤ n && n ≤ 0xFFFD) || 0x10000 ≤ n

/-- Whether a text is at its end or starts with a space, a tab or a line break. -/
def atGap (text : Text) : Bool := text.head?.all isGap

/-- Whether a text is at its end or starts with a space or a line break. -/
def atSpace (text : Text) : Bool := text.head?.all fun c => c = ' ' || isBreak c

/-- Whether a text starts with three of a character and then a gap. -/
def startsTriple (mark : Char) (text : Text) : Bool :=
  match text with
  | a :: b :: c :: rest => a = mark && b = mark && c = mark && atGap rest
  | _ => false

/-- Whether the marker of a document's start or end is in front of a text. -/
def startsMarker (text : Text) : Bool := startsTriple '-' text || startsTriple '.' text

/-! ## Cursors -/

/-- The text that is left, with its position. -/
structure Cursor where
  /-- The text that is left. -/
  rest : Text
  /-- The number of characters before it. -/
  index : Nat := 0
  /-- The number of line breaks before it. -/
  line : Nat := 0
  /-- The number of characters before it in its line; byte order marks do not count. -/
  column : Nat := 0
  deriving Repr

namespace Cursor

/-- The cursor behind a character, with the rest of the text. -/
def past (cursor : Cursor) (c : Char) (rest : Text) : Cursor :=
  if isBreak c then { rest, index := cursor.index + 1, line := cursor.line + 1, column := 0 }
  else
    { rest
      index := cursor.index + 1
      line := cursor.line
      column := if c = '\ufeff' then cursor.column else cursor.column + 1 }

/-- The cursor one character further on. -/
def next (cursor : Cursor) : Cursor :=
  match cursor.rest with
  | [] => cursor
  | c :: rest => cursor.past c rest

/-- The cursor a number of characters further on. -/
def skip : Nat → Cursor → Cursor
  | 0, cursor => cursor
  | n + 1, cursor => skip n cursor.next

/-- The cursor at a text that ends the text left. -/
def moveTo (rest : Text) (cursor : Cursor) : Cursor :=
  cursor.skip (cursor.rest.length - rest.length)

end Cursor

end Yaml

end FormLetter
