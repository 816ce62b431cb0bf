import FormLetter.Markup.Normal
import FormLetter.Merge.Report
import FormLetter.Render

/-!
# Merging documents

Each part of a document is normalized, read and rendered on its own; the merged parts are then given
to a writer in canonical order. Only two things make a merge fail: a document without parts, and a
writer that rejects a part. In strict mode the first problem in any part is raised instead of the
result, and nothing is written.

* `mergePart`: the merged text and the report of one part.
* `Writer`: what takes the merged parts.
* `prepareMerge`, `Prepared.conclude`: the merge of a document before and after the writing.
* `mergeDocument`: the merge of a document.
* `forwarded`: all diagnostics in the order in which they arise.

Main statement: `mergeDocument_of_items_nil`.
-/

namespace FormLetter

/-! ## Parts -/

/-- The merged text of a part and what happened in it. -/
def mergePart (settings : Settings) (part : String) (markup : Text) (context : Context) :
    Text × PartReport :=
  let normal := normalize settings.boundaries markup
  let template := Template.parse settings.limits normal.text
  let rendered := Scope.render ⟨settings, context⟩ template.tokens
  let findings := normal.findings ++ template.findings ++ rendered.findings
  (rendered.text,
    { part := part
      substituted := rendered.substituted
      decided := rendered.decided
      repaired := normal.repaired
      unresolved := rendered.unresolved
      diagnostics := findings.map (Finding.toDiagnostic (some part)) })

/-- Whether the nesting limit refuses the template of a part. -/
def refusesPart (settings : Settings) (markup : Text) : Bool :=
  Template.isRefused settings.limits (normalize settings.boundaries markup).text

/-- The merged text of every part that is present, with its report, in canonical order. -/
def mergeParts (settings : Settings) (context : Context) (document : Document) :
    List (Part × Text × PartReport) :=
  document.items.map fun (part, markup) => (part, mergePart settings part.name markup context)

/-! ## Writing -/

/-- Why a writer rejects a part: the kind of the failure and its wording. -/
structure WriteFault where
  /-- The kind of the failure. -/
  kind : String
  /-- The wording of the failure. -/
  message : String
  deriving Repr, DecidableEq

/-- What takes merged parts. Whatever it does shows in its state. -/
structure Writer (σ : Type) where
  /-- Takes a part, or rejects it. -/
  write : σ → Part → Text → σ × Option WriteFault

/-- The writer that takes everything and keeps nothing. -/
def Writer.discard : Writer Unit := ⟨fun state _ _ => (state, none)⟩

/-- Gives the parts to a writer up to the first that it rejects. -/
def writeAll {σ : Type} (writer : Writer σ) (state : σ) :
    List (Part × Text) → σ × Option (Part × WriteFault)
  | [] => (state, none)
  | (part, text) :: parts =>
    match writer.write state part text with
    | (state, none) => writeAll writer state parts
    | (state, some fault) => (state, some (part, fault))

/-- The fault of a merge whose writer rejects a part. -/
def rejection (part : Part) (fault : WriteFault) : Fault where
  kind := .partWrite
  message := s!"Writer rejected part {part.name}: {fault.message}"
  details := [("error_type", stringValue fault.kind)]
  part := some part.name

/-! ## Documents -/

/-- The diagnostic for an absent part. -/
def missingDiagnostic (part : Part) : Diagnostic where
  kind := .partMissing
  message := s!"Part {part.name} not present; skipped"
  part := some part.name

/-- The diagnostic for a fault that ends the merge. -/
def fatalDiagnostic (kind : Diagnostic.Kind) (fault : Fault) : Diagnostic where
  kind := kind
  message := fault.message
  part := fault.part
  details := fault.details

/-- The fault of a merge without parts. -/
def noPartsFault : Fault := { kind := .noParts, message := "Document contains no template parts" }

/-- A result that did not go through. -/
def failed (parts : List (Part × Text)) (report : MergeReport) (kind : Diagnostic.Kind)
    (fault : Fault) : MergeResult where
  success := false
  parts := parts
  report := { report with diagnostics := report.diagnostics ++ [fatalDiagnostic kind fault] }
  error := some fault

/-- The first diagnostic of a report that is a warning or an error. -/
def firstProblem? (report : MergeReport) : Option Diagnostic :=
  report.allDiagnostics.find? fun diagnostic => diagnostic.severity.isProblem

/-- The report of a document whose parts are merged. -/
def reportOf (document : Document) (merged : List (Part × Text × PartReport)) : MergeReport where
  parts := merged.map fun entry => entry.2.2
  diagnostics := document.missing.map missingDiagnostic

/-- The parts of a document merged and not yet written. -/
structure Prepared where
  /-- The merged markup of the parts, in canonical order. -/
  parts : List (Part × Text)
  /-- What happened. -/
  report : MergeReport
  deriving Repr

/-- The parts of a document merged, or, in strict mode, the first problem. -/
def prepareMerge (settings : Settings) (context : Context) (document : Document) :
    Except Fault Prepared :=
  let merged := mergeParts settings context document
  let prepared : Prepared :=
    ⟨merged.map fun entry => (entry.1, entry.2.1), reportOf document merged⟩
  match if settings.strict && !merged.isEmpty then firstProblem? prepared.report else none with
  | some diagnostic => .error diagnostic.toFault
  | none => .ok prepared

/-- The outcome once a writer took all parts, or rejected one. -/
def Prepared.conclude (prepared : Prepared) (rejected : Option (Part × WriteFault)) : MergeResult :=
  if prepared.parts.isEmpty then failed [] prepared.report .noPartsProcessed noPartsFault
  else
    match rejected with
    | none => { success := true, parts := prepared.parts, report := prepared.report }
    | some (part, fault) =>
      failed prepared.parts prepared.report .partWriteFailure (rejection part fault)

/-- The merge of a document, with the state of the writer after it. -/
def mergeDocument {σ : Type} (settings : Settings) (context : Context) (document : Document)
    (writer : Writer σ) (state : σ) : Except Fault MergeResult × σ :=
  match prepareMerge settings context document with
  | .error fault => (.error fault, state)
  | .ok prepared =>
    let (state, rejected) := writeAll writer state prepared.parts
    (.ok (prepared.conclude rejected), state)

/-- Whether the nesting limit refuses the template of some part. -/
def refusesDocument (settings : Settings) (document : Document) : Bool :=
  document.items.any fun item => refusesPart settings item.2

/-- The diagnostics of a merge in the order in which they arise: the absent parts, what was noticed
in each part, and the fault that ended the merge. -/
def forwarded (report : MergeReport) : List Diagnostic :=
  let (fatal, missing) := report.diagnostics.partition fun diagnostic => diagnostic.kind.isFatal
  missing ++ report.parts.flatMap PartReport.diagnostics ++ fatal

theorem mergeDocument_of_items_nil {σ : Type} {settings : Settings} {context : Context}
    {document : Document} {writer : Writer σ} {state : σ} (h : document.items = []) :
    mergeDocument settings context document writer state =
      (.ok (failed [] (reportOf document []) .noPartsProcessed noPartsFault), state) := by
  simp [mergeDocument, prepareMerge, mergeParts, h, writeAll, Prepared.conclude]

end FormLetter
