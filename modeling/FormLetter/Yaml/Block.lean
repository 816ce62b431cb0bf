import FormLetter.Yaml.Cursor

/-!
# Block scalars of YAML

A block scalar holds the indented lines below its header: as they are, or folded, where a single
break between two lines that start at the indentation becomes a space. The header may give the depth
of the indentation, and tells whether the last break, all breaks at the end, or none of them belong
to the content.

* `Chomping`, `takeHeader?`: the header.
* `blockBreaks`: the line breaks in front of a line of the block.
* `takeBlock?`: a block scalar, and what follows it.
-/

namespace FormLetter

namespace Yaml

/-- Which line breaks at the end belong to the content. -/
inductive Chomping where
  /-- None. -/
  | strip
  /-- The last one of a line. -/
  | clip
  /-- All. -/
  | keep
  deriving Repr, DecidableEq

/-! ## Headers -/

/-- The sign in front of a text that tells which breaks belong to the content, and what follows it.
-/
def takeChomping : Text → Option Chomping × Text
  | '+' :: rest => (some .keep, rest)
  | '-' :: rest => (some .strip, rest)
  | text => (none, text)

/-- The digit in front of a text that tells the depth of the indentation, and what follows it. Zero
is no depth. -/
def takeDepth? : Text → Option (Option Nat × Text)
  | [] => some (none, [])
  | c :: rest =>
    if c = '0' then none
    else if c.isDigit then some (some (c.toNat - 0x30), rest)
    else some (none, c :: rest)

/-- The signs of a header in either order. -/
def takeSigns? (text : Text) : Option (Chomping × Option Nat × Text) := do
  match takeChomping text with
  | (some chomping, rest) =>
    let (depth, rest) ← takeDepth? rest
    some (chomping, depth, rest)
  | (none, _) =>
    let (depth, rest) ← takeDepth? text
    match depth with
    | none => some (.clip, none, rest)
    | some _ =>
      let (chomping, rest) := takeChomping rest
      some (chomping.getD .clip, depth, rest)

/-- What follows spaces, a comment and a line break; the line must end there. -/
def afterComment? (text : Text) : Option Text :=
  let rest := text.dropWhile (· = ' ')
  let rest := if rest.head? = some '#' then rest.dropWhile fun c => !isBreak c else rest
  match rest with
  | [] => some []
  | c :: tail => if isBreak c then some tail else none

/-- The header of a block scalar, and what follows its line. -/
def takeHeader? (text : Text) : Option (Chomping × Option Nat × Text) := do
  let (chomping, depth, rest) ← takeSigns? text
  if !atSpace rest then none
  else
    let rest ← afterComment? rest
    some (chomping, depth, rest)

/-! ## Lines -/

/-- The line breaks in front of a text whose lines are indented, the column of what follows, and
what follows. No more spaces are skipped than belong to the indentation. -/
def blockBreaks (indent column : Nat) : Text → Text × Nat × Text
  | [] => ([], column, [])
  | c :: rest =>
    if c = ' ' && column < indent then blockBreaks indent (column + 1) rest
    else if isBreak c then
      let (breaks, found) := blockBreaks indent 0 rest
      (breakChar c :: breaks, found)
    else ([], column, c :: rest)

/-- The line breaks in front of a text, the largest column that spaces reach in it, the column of
what follows, and what follows. -/
def blockIndentation (column deepest : Nat) : Text → Text × Nat × Nat × Text
  | [] => ([], deepest, column, [])
  | c :: rest =>
    if c = ' ' then blockIndentation (column + 1) (max deepest (column + 1)) rest
    else if isBreak c then
      let (breaks, found) := blockIndentation 0 deepest rest
      (breakChar c :: breaks, found)
    else ([], deepest, column, c :: rest)

/-- The lines of a block scalar: their content, the break behind the last line, the breaks behind
that, and what follows. -/
structure BlockLines where
  /-- The content of the lines. -/
  content : Text
  /-- The break behind the last line. -/
  lastBreak : Text
  /-- The breaks behind that. -/
  breaks : Text
  /-- What follows. -/
  rest : Text
  deriving Repr

/-- Whether a line starts with a space or a tab. -/
def startsBlank (text : Text) : Bool := text.head?.any isSpaceOrTab

/-- What stands between two lines of a block scalar: the break itself or, folded, a space unless
there are further breaks. -/
def betweenLines (folded : Bool) (line lineBreak breaks next : Text) : Text :=
  if folded && lineBreak = ['\n'] && !startsBlank line && !startsBlank next then
    if breaks.isEmpty then [' '] else []
  else lineBreak

/-- The lines of a block scalar from the start of one of them on. -/
def takeLines (folded : Bool) (indent : Nat) (text : Text) : BlockLines :=
  let (line, rest) := text.span fun c => !isBreak c
  let (lineBreak, tail) :=
    match rest with
    | [] => ([], [])
    | c :: tail => ([breakChar c], tail)
  let (breaks, column, after) := blockBreaks indent 0 tail
  if column = indent && !after.isEmpty then
    if _h : after.length < text.length then
      let lines := takeLines folded indent after
      { lines with
        content :=
          line ++ betweenLines folded line lineBreak breaks after ++ breaks ++ lines.content }
    else ⟨line, lineBreak, breaks, after⟩
  else ⟨line, lineBreak, breaks, after⟩
  termination_by text.length

/-- A block scalar behind its mark, and what follows it. It is indented deeper than what surrounds
it. -/
def takeBlock? (folded : Bool) (outer : Int) (text : Text) : Option (Text × Text) := do
  let (chomping, depth, rest) ← takeHeader? text
  let least := (max 1 (outer + 1)).toNat
  let (breaks, indent, column, rest) :=
    match depth with
    | none =>
      let (breaks, deepest, column, rest) := blockIndentation 0 0 rest
      (breaks, max least deepest, column, rest)
    | some depth =>
      let indent := least + depth - 1
      let (breaks, column, rest) := blockBreaks indent 0 rest
      (breaks, indent, column, rest)
  let lines : BlockLines :=
    if column = indent && !rest.isEmpty then
      let lines := takeLines folded indent rest
      { lines with content := breaks ++ lines.content }
    else ⟨[], [], breaks, rest⟩
  let ending :=
    match chomping with
    | .strip => []
    | .clip => lines.lastBreak
    | .keep => lines.lastBreak ++ lines.breaks
  some (lines.content ++ ending, lines.rest)

end Yaml

end FormLetter
