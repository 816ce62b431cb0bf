import FormLetter.Log.Rendering
import FormLetter.Validation

/-!
# The log of a merge

A merge tells of every diagnostic as it arises, of what led to it, and of the totals of each part
and of the document. A check of a template tells the same except for the diagnostics.

* `Finding.logNote`, `Finding.logEntries`: the lines for a finding.
* `logPart`, `logMerge`, `MergeResult.log`: the log of a part, of a document, and of what came of
  it.
* `logValidation`: the log of a check.
-/

namespace FormLetter

/-! ## Findings -/

/-- The line in front of a finding. -/
def Finding.logNote (finding : Finding) : List LogEntry :=
  match finding with
  | .stepLimit .. | .tooDeep .. | .strayBranch _ | .branchAfterElse _ | .unmatchedClose _
  | .unclosedInside .. | .unclosed _ =>
    [⟨.debug, .reading, s!"Structural error: {finding.message}"⟩]
  | .invalidCondition text =>
    [⟨.debug, .conditions,
      s!"Invalid condition treated as false: {String.ofList text.quoted}"⟩]
  | _ => []

/-- The lines for a finding in a part. -/
def Finding.logEntries (part : String) (finding : Finding) : List LogEntry :=
  finding.logNote ++ [(finding.toDiagnostic (some part)).logEntry]

/-! ## Parts -/

/-- The totals of normalizing, where there are any. -/
def Normal.logTotals (normal : Normal) : List LogEntry :=
  if normal.repaired = 0 && normal.abandoned = 0 then []
  else
    [⟨.debug, .normalizing,
      s!"Normalized markup: {normal.repaired} repaired, {normal.abandoned} abandoned"⟩]

/-- The log of normalizing and reading a part, with the lines that a function gives for each
finding. -/
def logReading (linesOf : Finding → List LogEntry) (settings : Settings) (markup : Text) :
    List LogEntry :=
  let normal := normalize settings.boundaries markup
  let template := Template.parse settings.limits normal.text
  normal.findings.flatMap linesOf ++ normal.logTotals ++ template.findings.flatMap linesOf

/-- The lines for a step of rendering a part. -/
def Scope.logStep (scope : Scope) (part : String) : RenderStep → List LogEntry
  | .lookedUp identifier => scope.logLookup identifier
  | .noticed finding => finding.logEntries part

/-- The log of merging a part. -/
def logPart (settings : Settings) (context : Context) (part : String) (markup : Text) :
    List LogEntry :=
  let scope : Scope := ⟨settings, context⟩
  let normal := normalize settings.boundaries markup
  let tokens := (Template.parse settings.limits normal.text).tokens
  let (_, report) := mergePart settings part markup context
  logReading (Finding.logEntries part) settings markup ++
    (scope.steps tokens).flatMap (scope.logStep part) ++
    [⟨.debug, .merging,
      s!"Merged {part}: {report.substituted} variables, {report.decided} conditionals, " ++
        s!"{report.unresolved.length} unresolved"⟩]

/-! ## Documents -/

/-- The log of merging the parts of a document. -/
def logMerge (settings : Settings) (context : Context) (document : Document) : List LogEntry :=
  document.missing.map (fun part => (missingDiagnostic part).logEntry) ++
    document.items.flatMap fun (part, markup) => logPart settings context part.name markup

/-- The lines for the outcome of a merge. -/
def MergeResult.log (result : MergeResult) : List LogEntry :=
  match result.error with
  | none =>
    [⟨.info, .merging,
      s!"Merged {result.parts.length} part(s): " ++
        s!"{result.report.substituted} variables substituted, " ++
        s!"{result.report.decided} conditionals resolved"⟩]
  | some fault =>
    ⟨.error, .merging, s!"Merge failed: {fault.text}"⟩ ::
      (result.report.diagnostics.filter fun diagnostic => diagnostic.kind.isFatal).map
        Diagnostic.logEntry

/-- The log of checking a document. -/
def logValidation (settings : Settings) (document : Document) : List LogEntry :=
  let report := validateDocument settings document
  document.items.flatMap (fun (_, markup) => logReading Finding.logNote settings markup) ++
    [⟨.info, .checking,
      s!"Validated {report.parts.length} part(s): {report.tags} merge tags, " ++
        s!"{report.blocks} conditionals, {report.modifiers} modifiers"⟩]

end FormLetter
