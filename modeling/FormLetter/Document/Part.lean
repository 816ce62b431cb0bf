import FormLetter.Text.Blank
import FormLetter.Text.Casing

/-!
# Parts of a document

A word-processing document is a container of parts: a body, and headers and footers of three kinds.

* `Part`: the parts; `Part.all` gives them in canonical order.
* `Part.name`, `Part.path`: the name of a part and its path inside the container.
* `Part.parse?`: a part from its name or path.

Main statement: `mem_all`.
-/

namespace FormLetter

open Text

/-- A part of a document. -/
inductive Part where
  | body
  | header1
  | header2
  | header3
  | footer1
  | footer2
  | footer3
  deriving Repr, DecidableEq

namespace Part

/-- Every part in canonical order: the body, then headers, then footers. -/
def all : List Part := [body, header1, header2, header3, footer1, footer2, footer3]

theorem mem_all (part : Part) : part ∈ all := by
  cases part <;> decide

/-- The name of a part. -/
def name : Part → String
  | body => "body"
  | header1 => "header-1"
  | header2 => "header-2"
  | header3 => "header-3"
  | footer1 => "footer-1"
  | footer2 => "footer-2"
  | footer3 => "footer-3"

/-- The file that holds a part inside the container. -/
def file : Part → String
  | body => "document.xml"
  | header1 => "header1.xml"
  | header2 => "header2.xml"
  | header3 => "header3.xml"
  | footer1 => "footer1.xml"
  | footer2 => "footer2.xml"
  | footer3 => "footer3.xml"

/-- The path of a part inside the container. -/
def path (part : Part) : String := "word/" ++ part.file

/-- Whether a lower-case text names a part: by its name, with or without the hyphen, or by its path.
-/
def isNamed (candidate : Text) (part : Part) : Bool :=
  candidate = part.name.toList || candidate = part.path.toList ||
    candidate = part.name.toList.filter (· ≠ '-')

/-- The part that a text names, whatever its case and the blanks around it. -/
def parse? (text : Text) : Option Part :=
  let candidate := lower (strip text)
  all.find? (isNamed candidate)

end Part

end FormLetter
