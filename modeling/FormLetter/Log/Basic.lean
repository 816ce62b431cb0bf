import FormLetter.Diagnostic.Basic

/-!
# Logs

A log tells what happened line by line. Each line has a severity and names what it comes from, and a
log leaves out the lines below some severity.

* `LogSource`: what a line comes from.
* `LogEntry`: a line.
* `LogEntry.shown`: the lines that are grave enough.
* `Diagnostic.logEntry`: a diagnostic as a line.
-/

namespace FormLetter

/-! ## Severities -/

/-- The name of a severity in a log. -/
def Severity.label : Severity → String
  | .debug => "DEBUG"
  | .info => "INFO"
  | .warning => "WARNING"
  | .error => "ERROR"

/-- The severity of a name in a log. -/
def Severity.ofLabel? (label : String) : Option Severity :=
  Severity.all.find? fun severity => severity.label = label

/-! ## Lines -/

/-- What a line of a log comes from. -/
inductive LogSource where
  /-- The command line. -/
  | command
  /-- The diagnostics. -/
  | diagnostics
  /-- The normalizing of markup. -/
  | normalizing
  /-- The reading of templates. -/
  | reading
  /-- The evaluation of conditions. -/
  | conditions
  /-- The look-up of identifiers. -/
  | lookup
  /-- The merging of documents. -/
  | merging
  /-- The checking of templates. -/
  | checking
  /-- The filling of contexts. -/
  | filling
  deriving Repr, DecidableEq

/-- The name of a source. -/
def LogSource.name : LogSource → String
  | command => "docmerge.cli"
  | diagnostics => "docmerge.models.diagnostics"
  | normalizing => "docmerge.engine.normalizer"
  | reading => "docmerge.engine.tag_parser"
  | conditions => "docmerge.engine.condition_evaluator"
  | lookup => "docmerge.engine.value_resolver"
  | merging => "docmerge.engine.orchestrator"
  | checking => "docmerge.engine.validator"
  | filling => "docmerge.engine.context_builder"

/-- A line of a log. -/
structure LogEntry where
  /-- How grave the line is. -/
  severity : Severity
  /-- What the line comes from. -/
  source : LogSource
  /-- The message. -/
  message : String
  deriving Repr, DecidableEq

namespace LogEntry

/-- A line as text. -/
def line (entry : LogEntry) : String :=
  s!"{entry.severity.label} {entry.source.name}: {entry.message}\n"

/-- The lines that are at least as grave as a severity, as text. -/
def shown (least : Severity) (entries : List LogEntry) : String :=
  String.join ((entries.filter fun entry => least.rank ≤ entry.severity.rank).map line)

end LogEntry

/-! ## Diagnostics -/

namespace Diagnostic

/-- A diagnostic as the message of a line. -/
def logMessage (diagnostic : Diagnostic) : String :=
  let message := s!"{diagnostic.kind.name}: {diagnostic.message}"
  match namedPart? diagnostic.part with
  | some part => s!"[{part}] {message}"
  | none => message

/-- A diagnostic as a line. -/
def logEntry (diagnostic : Diagnostic) : LogEntry :=
  ⟨diagnostic.severity, .diagnostics, diagnostic.logMessage⟩

/-- The diagnostics that are at least as grave as a severity, as lines without their source. -/
def logged (least : Severity) (diagnostics : List Diagnostic) : String :=
  String.join <| (diagnostics.filter fun diagnostic => least.rank ≤ diagnostic.severity.rank).map
    fun diagnostic => s!"{diagnostic.severity.label} {diagnostic.logMessage}\n"

end Diagnostic

end FormLetter
