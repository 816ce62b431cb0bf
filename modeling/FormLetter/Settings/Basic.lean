import FormLetter.Template.Parser

/-!
# Settings

What may be adjusted about a merge.

* `Settings`: the settings with their defaults.
* `Settings.limits`: the limits of reading that follow from them.
-/

namespace FormLetter

/-- The elements of the paragraph level and above, across which no tag is put together. -/
def defaultBoundaries : List Text :=
  ["p", "tc", "tr", "tbl", "body", "hdr", "ftr", "txbxContent", "sectPr", "document"].map
    String.toList

/-- The settings of a merge. -/
structure Settings where
  /-- The local names of the elements across which no tag is put together. -/
  boundaries : List Text := defaultBoundaries
  /-- The deepest nesting of blocks. -/
  maxNestingDepth : Int := 64
  /-- Whether part of a key may match an identifier. -/
  allowPartialMatch : Bool := true
  /-- Whether braces in values are escaped. -/
  escapeBraces : Bool := true
  /-- Whether the day comes first in a date such as `03/04/2024`. -/
  dayFirst : Bool := true
  /-- Whether parts may be merged at the same time; the result does not depend on it. -/
  parallelParts : Bool := false
  /-- Whether the first problem ends the merge. -/
  strict : Bool := false
  /-- The length at which an abbreviation is cut. -/
  abbreviationLength : Int := 6
  deriving Repr, DecidableEq

/-- The limits of reading a template. -/
def Settings.limits (settings : Settings) : Limits := { depth := settings.maxNestingDepth }

end FormLetter
