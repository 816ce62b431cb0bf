import FormLetter.Markup.Splice

/-!
# Normal markup

Markup is normal when no tag of a template is interrupted by markup. Normalizing puts interrupted
tags together and copies everything else as it is; a brace inside a markup tag opens nothing.

* `Normal`: normal markup with what was noticed on the way.
* `scanFrom`: the scan, with text between tags copied in one piece.
* `normalize`: the normal form of markup.

Main statement: `normalize_of_notMem` (markup without an opening brace is normal).
-/

namespace FormLetter

open Text

/-! ## Tags of a template -/

/-- The references and typographic quotes that a word processor puts into tags, with what they stand
for. -/
def tagForms : List (Text × Text) :=
  [("&#36;".toList, ['$']), ("&#x24;".toList, ['$']), ("&quot;".toList, ['"']),
    ("&#34;".toList, ['"']), ("&apos;".toList, ['\'']), ("&#39;".toList, ['\'']), (['“'], ['"']),
    (['”'], ['"']), (['‘'], ['\'']), (['’'], ['\''])]

/-- A span as a tag of a template: in braces, without markup, with its references decoded. -/
def Span.token (span : Span) : Text :=
  '{' :: replaceEach tagForms span.joined ++ ['}']

/-! ## Normal form -/

/-- Normal markup, with the number of tags put together, the number of braces left alone, and a
finding for each of them in order. -/
structure Normal where
  /-- The markup. -/
  text : Text
  /-- How many tags were put together. -/
  repaired : Nat := 0
  /-- How many braces were left alone. -/
  abandoned : Nat := 0
  /-- What was noticed, in order. -/
  findings : List Finding := []
  deriving Repr, DecidableEq

namespace Normal

/-- Normal markup behind a piece of verbatim text. -/
def behind (piece : Text) (normal : Normal) : Normal := { normal with text := piece ++ normal.text }

/-- Normal markup behind a brace that was left alone. -/
def behindBrace (offset : Nat) (reason : Abandonment) (normal : Normal) : Normal where
  text := '{' :: normal.text
  repaired := normal.repaired
  abandoned := normal.abandoned + 1
  findings := .abandoned offset reason :: normal.findings

/-- Normal markup behind a tag of the template. -/
def behindSpan (offset : Nat) (span : Span) (normal : Normal) : Normal where
  text := span.token ++ normal.text
  repaired := if span.more = [] then normal.repaired else normal.repaired + 1
  abandoned := normal.abandoned
  findings :=
    if span.more = [] then normal.findings
    else .repaired offset span.token span.more.length :: normal.findings

end Normal

/-- Whether a reason holds for every later brace too: the text ends, or its last markup tag never
does. -/
def Abandonment.isFinal : Abandonment → Bool
  | .noClosingBrace | .unterminatedMarkup => true
  | _ => false

/-- Whether a character opens nothing: no markup tag and no tag of a template. -/
def opensNothing (c : Char) : Bool := c ≠ '<' && c ≠ '{'

/-- Normalizes the text that starts at an offset. Characters that open nothing are copied together.
Once a brace was left alone for a final reason, `exhausted` holds, and no later brace is tried. -/
def scanFrom (boundaries : List Text) (offset : Nat) (exhausted : Bool) (text : Text) : Normal :=
  match text with
  | [] => { text := [] }
  | '<' :: rest =>
    match _h : takeTag? rest with
    | none => { text := '<' :: rest }
    | some (tag, tail) => (scanFrom boundaries (offset + tag.length) exhausted tail).behind tag
  | '{' :: rest =>
    if exhausted then
      (scanFrom boundaries (offset + 1) true rest).behindBrace offset .noClosingBrace
    else
      match _h : readSpan boundaries rest with
      | .ok (span, tail) =>
        (scanFrom boundaries (offset + span.source.length + 2) false tail).behindSpan offset span
      | .error reason =>
        (scanFrom boundaries (offset + 1) reason.isFinal rest).behindBrace offset reason
  | c :: rest =>
    let piece := c :: rest.takeWhile opensNothing
    (scanFrom boundaries (offset + piece.length) exhausted (rest.dropWhile opensNothing)).behind
      piece
  termination_by text.length
  decreasing_by
    · have := length_takeTag?_lt _h
      simp only [List.length_cons]
      omega
    · simp
    · have := length_readSpan_lt _h
      simp only [List.length_cons]
      omega
    · simp
    · have := (List.dropWhile_sublist opensNothing (l := rest)).length_le
      simp only [List.length_cons]
      omega

/-- The normal form of markup; tags are not put together across an element named in `boundaries`.
Markup without an opening brace is not scanned. -/
def normalize (boundaries : List Text) (markup : Text) : Normal :=
  if '{' ∈ markup then scanFrom boundaries 0 false markup else { text := markup }

/-- Markup without an opening brace is normal. -/
theorem normalize_of_notMem {boundaries : List Text} {markup : Text} (h : '{' ∉ markup) :
    normalize boundaries markup = { text := markup } :=
  if_neg h

end FormLetter
