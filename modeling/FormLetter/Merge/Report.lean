import FormLetter.Diagnostic.Basic
import FormLetter.Document.Basic

/-!
# Reports of a merge

* `PartReport`: what happened in one part.
* `MergeReport`: the reports of all parts, with the diagnostics of the document as a whole.
* `MergeReport.allDiagnostics`: the diagnostics of the document, then those of its parts.
* `MergeResult`: the outcome of a merge.
-/

namespace FormLetter

/-- What happened in one part. -/
structure PartReport where
  /-- The name of the part. -/
  part : String
  /-- The number of tags that were replaced by a value. -/
  substituted : Nat
  /-- The number of blocks that were decided. -/
  decided : Nat
  /-- The number of tags that were put together. -/
  repaired : Nat
  /-- The identifiers without a value. -/
  unresolved : List Text
  /-- What was noticed, in order. -/
  diagnostics : List Diagnostic
  deriving Repr

/-- The diagnostics of a part that are about its structure. -/
def PartReport.structuralErrors (report : PartReport) : List Diagnostic :=
  report.diagnostics.filter fun diagnostic => diagnostic.kind = .structuralError

/-- What happened in a document. -/
structure MergeReport where
  /-- The reports of the parts, in canonical order. -/
  parts : List PartReport := []
  /-- What was noticed about the document as a whole. -/
  diagnostics : List Diagnostic := []
  deriving Repr

namespace MergeReport

/-- The number of tags that were replaced by a value. -/
def substituted (report : MergeReport) : Nat :=
  (report.parts.map PartReport.substituted).foldr (· + ·) 0

/-- The number of blocks that were decided. -/
def decided (report : MergeReport) : Nat :=
  (report.parts.map PartReport.decided).foldr (· + ·) 0

/-- The identifiers without a value, each once, in order of first appearance. -/
def unresolved (report : MergeReport) : List Text :=
  (report.parts.flatMap PartReport.unresolved).eraseDups

/-- All diagnostics: those of the document, then those of its parts. -/
def allDiagnostics (report : MergeReport) : List Diagnostic :=
  report.diagnostics ++ report.parts.flatMap PartReport.diagnostics

end MergeReport

/-- The outcome of a merge. -/
structure MergeResult where
  /-- Whether the merge went through. -/
  success : Bool
  /-- The merged markup of the parts, in canonical order. -/
  parts : List (Part × Text)
  /-- What happened. -/
  report : MergeReport
  /-- Why the merge did not go through. -/
  error : Option Fault := none
  deriving Repr

/-! ## Reports as data -/

/-- A text as a value. -/
def stringValue (s : String) : Value := .text s.toList

/-- A report of a part as data. -/
def PartReport.record (report : PartReport) : Value :=
  .ofEntries
    [("part".toList, stringValue report.part),
      ("variables_substituted".toList, .int report.substituted),
      ("conditionals_resolved".toList, .int report.decided),
      ("tokens_repaired".toList, .int report.repaired),
      ("unresolved_identifiers".toList, .list (report.unresolved.map .text)),
      ("diagnostics".toList, .list (report.diagnostics.map Diagnostic.record))]

/-- A report of a document as data. -/
def MergeReport.record (report : MergeReport) : Value :=
  .ofEntries
    [("variables_substituted".toList, .int report.substituted),
      ("conditionals_resolved".toList, .int report.decided),
      ("unresolved_identifiers".toList, .list (report.unresolved.map .text)),
      ("parts".toList, .list (report.parts.map PartReport.record)),
      ("diagnostics".toList, .list (report.diagnostics.map Diagnostic.record))]

/-- An outcome as data, with the names of the parts in alphabetical order. -/
def MergeResult.record (result : MergeResult) : Value :=
  .ofEntries <|
    [("success".toList, .bool result.success),
      ("parts".toList,
        .list ((Text.sorted (result.parts.map fun part => part.1.name.toList)).map .text)),
      ("report".toList, result.report.record)] ++
    (result.error.map fun fault => ("error".toList, fault.record)).toList

end FormLetter
