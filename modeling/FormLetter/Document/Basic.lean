import FormLetter.Document.Part

/-!
# Documents

A document gives some of the parts their markup. It does not remember in which order they were
given.

* `Document.ofParts`, `Document.ofNames`: a document from parts or from their names.
* `Document.items`, `Document.missing`: the parts that are present, with their markup, and the
  others.
-/

namespace FormLetter

/-- The markup of the parts that are present. -/
structure Document where
  /-- The markup of a part, if it is present. -/
  markup? : Part → Option Text

namespace Document

/-- The document without parts. -/
def empty : Document := ⟨fun _ => none⟩

/-- The document with the markup of one part set. -/
def set (part : Part) (markup : Text) (document : Document) : Document :=
  ⟨fun other => if other = part then some markup else document.markup? other⟩

/-- A document from parts with their markup; of a part given twice the last markup counts. -/
def ofParts (parts : List (Part × Text)) : Document :=
  parts.foldl (fun document entry => document.set entry.1 entry.2) empty

/-- A document from names with their markup. Names of no part are left out, and so are names without
markup. -/
def ofNames (names : List (Text × Option Text)) : Document :=
  ofParts (names.filterMap fun (name, markup) => do
    let part ← Part.parse? name
    let markup ← markup
    some (part, markup))

/-- The parts that are present, with their markup, in canonical order. -/
def items (document : Document) : List (Part × Text) :=
  Part.all.filterMap fun part => (document.markup? part).map (part, ·)

/-- The parts that are absent, in canonical order. -/
def missing (document : Document) : List Part :=
  Part.all.filter fun part => (document.markup? part).isNone

/-- The document as one line: the names of its parts. -/
def shown (document : Document) : String :=
  "TemplateDocument(" ++ ", ".intercalate (document.items.map fun item => item.1.name) ++ ")"

end Document

end FormLetter
