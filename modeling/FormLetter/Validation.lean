import FormLetter.Merge.Basic

/-!
# Checking templates

The structure of a template without merging it: how many merge tags, blocks and modifiers each part
has, and what is wrong with them.

* `PartValidation`, `ValidationReport`: the findings for a part and for a document.
* `validatePart`, `validateDocument`.
* `ValidationReport.summary`: a report as text.

Main statement: `hasErrors_iff`.
-/

namespace FormLetter

/-- The structure of one part. -/
structure PartValidation where
  /-- The name of the part. -/
  part : String
  /-- The number of merge tags. -/
  tags : Nat
  /-- The number of blocks. -/
  blocks : Nat
  /-- The number of modifiers. -/
  modifiers : Nat
  /-- What is wrong. -/
  errors : List String
  deriving Repr, DecidableEq

/-- Whether anything is wrong with a part. -/
def PartValidation.hasErrors (validation : PartValidation) : Bool := !validation.errors.isEmpty

/-- The structure of a part as one line. -/
def PartValidation.summary (validation : PartValidation) : String :=
  let line := s!"{validation.part}: {validation.tags} merge tags, " ++
    s!"{validation.blocks} conditionals, {validation.modifiers} modifiers"
  if validation.hasErrors then line ++ " - ERRORS: " ++ ", ".intercalate validation.errors else line

/-- The structure of a document. -/
structure ValidationReport where
  /-- The structure of the parts, in canonical order. -/
  parts : List PartValidation
  deriving Repr, DecidableEq

namespace ValidationReport

/-- The number of merge tags. -/
def tags (report : ValidationReport) : Nat :=
  (report.parts.map PartValidation.tags).foldr (· + ·) 0

/-- The number of blocks. -/
def blocks (report : ValidationReport) : Nat :=
  (report.parts.map PartValidation.blocks).foldr (· + ·) 0

/-- The number of modifiers. -/
def modifiers (report : ValidationReport) : Nat :=
  (report.parts.map PartValidation.modifiers).foldr (· + ·) 0

/-- Whether anything is wrong. -/
def hasErrors (report : ValidationReport) : Bool := report.parts.any PartValidation.hasErrors

theorem hasErrors_iff (report : ValidationReport) :
    report.hasErrors = true ↔ ∃ part ∈ report.parts, part.errors ≠ [] := by
  simp [hasErrors, PartValidation.hasErrors]

/-- A report as text. -/
def summary (report : ValidationReport) : String :=
  "\n".intercalate <|
    ["Validation Summary:", s!"  Merge tags found: {report.tags}",
      s!"  Conditional blocks: {report.blocks}", s!"  Modifiers used: {report.modifiers}",
      s!"  Sections analyzed: {report.parts.length}"] ++
    report.parts.map PartValidation.summary

/-- A report as data. -/
def record (report : ValidationReport) : Value :=
  .ofEntries
    [("total_variables".toList, .int report.tags),
      ("total_conditionals".toList, .int report.blocks),
      ("total_modifiers".toList, .int report.modifiers),
      ("has_errors".toList, .bool report.hasErrors),
      ("parts".toList, .list (report.parts.map fun part =>
        .ofEntries
          [("part".toList, stringValue part.part), ("variables".toList, .int part.tags),
            ("conditionals".toList, .int part.blocks), ("modifiers".toList, .int part.modifiers),
            ("errors".toList, .list (part.errors.map stringValue))]))]

end ValidationReport

/-- Whether a finding counts as an error of the template. -/
def Finding.isError (finding : Finding) : Bool :=
  finding.kind = .structuralError || finding.kind = .modifierArgumentError

/-- The structure of a part. -/
def validatePart (settings : Settings) (part : String) (markup : Text) : PartValidation :=
  let normal := normalize settings.boundaries markup
  let template := Template.parse settings.limits normal.text
  let tokens := Token.walk template.tokens
  let tags := tokens.filterMap fun token =>
    match token with
    | .tag mergeTag => some mergeTag
    | _ => none
  { part := part
    tags := tags.length
    blocks := tokens.countP fun token =>
      match token with
      | .block .. => true
      | _ => false
    modifiers := (tags.map fun mergeTag => mergeTag.modifiers.length).foldr (· + ·) 0
    errors := ((normal.findings ++ template.findings).filter Finding.isError).map Finding.message }

/-- The structure of a document. -/
def validateDocument (settings : Settings) (document : Document) : ValidationReport :=
  ⟨document.items.map fun (part, markup) => validatePart settings part.name markup⟩

end FormLetter
