import FormLetter.Yaml.Quoted

/-!
# Plain scalars of YAML

A scalar without quotes is a sequence of words. The blanks between them count, a line break folds as
between quotes, and the next line must be indented deeper than what surrounds the scalar. A word
ends at a gap, at a colon with a gap behind it and, inside brackets, at the characters that
structure them.

* `takeWord`: the word in front of a text.
* `wordGap`: the blanks and the line breaks behind a word.
* `takePlain`: the scalar in front of a text, and what follows it.
-/

namespace FormLetter

namespace Yaml

/-- Whether a character structures lists and mappings inside brackets. -/
def isFlowMark (c : Char) : Bool := c = ',' || c = '[' || c = ']' || c = '\x7b' || c = '\x7d'

/-- Whether a word ends at a character with some text behind it. -/
def endsWord (inFlow : Bool) (c : Char) (rest : Text) : Bool :=
  isGap c || (c = ':' && (atGap rest || (inFlow && rest.head?.any isFlowMark))) ||
    (inFlow && (isFlowMark c || c = '?'))

/-- The word in front of a text, and what follows it. -/
def takeWord (inFlow : Bool) : Text → Text × Text
  | [] => ([], [])
  | c :: rest =>
    if endsWord inFlow c rest then ([], c :: rest)
    else
      let (word, tail) := takeWord inFlow rest
      (c :: word, tail)

/-! ## Gaps between words -/

/-- The blanks behind a word. -/
structure WordGap where
  /-- What they fold to. -/
  folded : Text
  /-- What follows them. -/
  rest : Text
  /-- Whether there is a line break among them. -/
  crossed : Bool
  /-- The column of what follows, if there is a line break among them. -/
  column : Nat
  /-- Whether a marker of a document's start or end follows. -/
  atMarker : Bool
  deriving Repr

/-- The line breaks behind a first one: the breaks, the column of what follows, what follows, and
whether it is a marker. The text starts at a column. -/
def gapLines (column : Nat) : Text → Text × Nat × Text × Bool
  | [] => ([], column, [], false)
  | c :: rest =>
    if c = ' ' then gapLines (column + 1) rest
    else if isBreak c then
      if startsMarker rest then ([breakChar c], 0, rest, true)
      else
        let (breaks, found) := gapLines 0 rest
        (breakChar c :: breaks, found)
    else ([], column, c :: rest, false)

/-- The blanks behind a word. -/
def wordGap (text : Text) : WordGap :=
  let (spaces, rest) := text.span (· = ' ')
  match rest with
  | [] => ⟨spaces, [], false, 0, false⟩
  | c :: tail =>
    if !isBreak c then ⟨spaces, rest, false, 0, false⟩
    else if startsMarker tail then ⟨[], tail, true, 0, true⟩
    else
      let (breaks, column, after, atMarker) := gapLines 0 tail
      ⟨foldBreaks c breaks, after, true, column, atMarker⟩

/-- Whether a scalar ends at a gap: no blanks, a marker, a comment, or too little indentation. -/
def WordGap.isFinal (inFlow : Bool) (indent : Int) (gap : WordGap) : Bool :=
  gap.folded.isEmpty || gap.atMarker || gap.rest.head? = some '#' ||
    (!inFlow && gap.crossed && gap.column < indent)

/-! ## Scalars -/

/-- A plain scalar. -/
structure Plain where
  /-- The content. -/
  content : Text
  /-- What follows the scalar and the blanks behind it. -/
  rest : Text
  /-- Whether there is a line break among the blanks behind it. -/
  crossed : Bool
  deriving Repr

/-- The plain scalar in front of a text. Its lines but the first stand at a column that is at least
the indentation, except inside brackets. -/
def takePlain (inFlow : Bool) (indent : Int) (text : Text) : Plain :=
  let (word, rest) := takeWord inFlow text
  if word.isEmpty then ⟨[], text, false⟩
  else
    let gap := wordGap rest
    if gap.isFinal inFlow indent then ⟨word, gap.rest, gap.crossed⟩
    else if _h : gap.rest.length < text.length then
      let plain := takePlain inFlow indent gap.rest
      if plain.content.isEmpty then ⟨word, gap.rest, gap.crossed⟩
      else { plain with content := word ++ gap.folded ++ plain.content }
    else ⟨word, gap.rest, gap.crossed⟩
  termination_by text.length

end Yaml

end FormLetter
