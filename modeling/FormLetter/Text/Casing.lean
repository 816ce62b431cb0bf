import FormLetter.Text.CaseTable

/-!
# Upper and lower case

The full Unicode case mappings: a letter may become several (`ß` gives `SS`), and a capital sigma
at the end of a word becomes the final form.

* `Text.upper`, `Text.lower`: the mappings of a text.

Main statement: `lowerChar_ascii`.
-/

namespace FormLetter

namespace Text

/-! ## Single characters -/

/-- Whether a run holds the code point. -/
def CaseRun.holds (run : CaseRun) (n : Nat) : Bool :=
  run.first ≤ n && n ≤ run.last && (n - run.first) % run.stride == 0

/-- A code point as a mapping by runs gives it. -/
def shifted (runs : List CaseRun) (n : Nat) : Nat :=
  match (runs.takeWhile fun run => run.first ≤ n).find? (·.holds n) with
  | some run => (n + run.shift).toNat
  | none => n

/-- A character as a mapping by expansions and runs gives it. -/
def mapped (expansions : List (Nat × List Nat)) (runs : List CaseRun) (c : Char) : Text :=
  match expansions.lookup c.toNat with
  | some codes => codes.map Char.ofNat
  | none => [Char.ofNat (shifted runs c.toNat)]

/-- The upper-case form of a character. -/
def upperChar (c : Char) : Text :=
  if c.toNat < 0x80 then [c.toUpper] else mapped upperExpansions upperRuns c

/-- The lower-case form of a character on its own. -/
def lowerChar (c : Char) : Text :=
  if c.toNat < 0x80 then [c.toLower] else mapped lowerExpansions lowerRuns c

theorem lowerChar_ascii {c : Char} (h : c.toNat < 0x80) : lowerChar c = [c.toLower] := by
  simp [lowerChar, h]

/-! ## Final sigma -/

/-- Whether the sorted ranges hold the code point. -/
def inRanges (ranges : List (Nat × Nat)) (n : Nat) : Bool :=
  (ranges.takeWhile fun range => range.1 ≤ n).any fun range => n ≤ range.2

/-- Whether the first character that is not ignorable is a letter with a case. -/
def meetsCased (text : Text) : Bool :=
  match text.dropWhile fun c => inRanges ignorableRanges c.toNat with
  | [] => false
  | c :: _ => inRanges casedRanges c.toNat

/-- The capital sigma. -/
def capitalSigma : Char := 'Σ'

/-- A capital sigma takes its final form after a letter that no letter follows; `before` holds the
characters in front of it, nearest first. -/
def lowerSigma (before following : Text) : Char :=
  if meetsCased before && !meetsCased following then 'ς' else 'σ'

/-- The lower-case form of a text whose preceding characters are `before`, nearest first. -/
def lowerAfter (before : Text) : Text → Text
  | [] => []
  | c :: rest =>
    (if c = capitalSigma then [lowerSigma before rest] else lowerChar c) ++
      lowerAfter (c :: before) rest

/-! ## Texts -/

/-- The upper-case form of a text. -/
def upper (text : Text) : Text := text.flatMap upperChar

/-- The lower-case form of a text. -/
def lower (text : Text) : Text := lowerAfter [] text

end Text

end FormLetter
