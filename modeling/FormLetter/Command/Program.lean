import FormLetter.Command.Source
import FormLetter.Json.Printer
import FormLetter.Log.Merging

/-!
# The program

The program checks templates, merges them, or shows the values to merge them with. What it shows is
followed by nothing else; the log and the reason of a failure go to the error output.

* `Outcome`: what a run of the program leaves.
* `Storage.writeMarkup`: a part written to its file.
* `runValidate`, `runMerge`, `runContext`: the commands.
* `run`: a run with given arguments.
-/

namespace FormLetter

/-- The version of the program. -/
def programVersion : String := "docmerge 1.0.0"

/-! ## Output -/

/-- What a command shows and how it ends. -/
structure Answer where
  /-- How the command ends. -/
  exit : ExitCode
  /-- The output. -/
  out : String
  /-- Why the command failed. -/
  problem : Option String := none
  deriving Repr, DecidableEq

/-- Lines of output. -/
def outputLines (lines : List String) : String := String.join (lines.map fun line => line ++ "\n")

/-- The lines of a heading. -/
def heading (title : String) : List String :=
  let rule := String.ofList (List.replicate 60 '=')
  ["", rule, title, rule]

/-- A line that confirms something. -/
def confirmation (message : String) : String := s!"[OK] {message}"

/-- A line that warns of something. -/
def warning (message : String) : String := s!"[WARN] {message}"

/-- A line that tells of a failure. -/
def complaint (message : String) : String := s!"[ERROR] {message}"

/-- A value as JSON output. -/
def jsonOutput (value : Value) : String := outputLines [String.ofList (Json.indented value)]

/-! ## Checking -/

/-- The lines for the structure of a document. -/
def validationLines (report : ValidationReport) : List String :=
  heading "docmerge - Validate Template" ++
    [report.summary, "",
      if report.hasErrors then warning "Template has structural errors"
      else confirmation "Template is structurally valid"]

variable {m : Type → Type} [Monad m]

/-- Checks the structure of a document. -/
def runValidate (storage : Storage m) (request : Request) (parts : List Text) (json : Bool) :
    Job m Answer := do
  let configuration ← readConfiguration storage request
  let document ← readDocument storage parts
  Job.log (logValidation configuration.settings document)
  let report := validateDocument configuration.settings document
  return {
    exit := if report.hasErrors then .badInput else .ok
    out := if json then jsonOutput report.record else outputLines (validationLines report) }

/-! ## Merging -/

/-- The fault of a text with surrogates that have no bytes. -/
def encodingFault (front : Nat) (run : Text) : WriteFault where
  kind := "UnicodeEncodeError"
  message :=
    let which :=
      match run with
      | [c] => s!"character {String.ofList (Text.quoted [c])} in position {front}"
      | _ => s!"characters in position {front}-{front + run.length - 1}"
    s!"'utf-8' codec can't encode {which}: surrogates not allowed"

/-- Why a text cannot be the content of a file. -/
def contentFault? (text : Text) : Option WriteFault :=
  (Text.surrogates? (fun _ => true) text).map fun (front, run) => encodingFault front run

/-- Why a text cannot be the name of a file. A low surrogate from `U+DC80` to `U+DCFF` is a byte of
a name that is not encoded otherwise. -/
def nameFault? (name : Text) : Option WriteFault :=
  let isByte (c : Char) : Bool := 0xDC80 ≤ Text.codePoint c && Text.codePoint c ≤ 0xDCFF
  match Text.surrogates? (fun c => !isByte c) name with
  | some (front, run) => some (encodingFault front run)
  | none => if name.contains '\x00' then some ⟨"ValueError", "embedded null byte"⟩ else none

/-- The fault of a part whose file is refused. -/
def FileFault.toWriteFault (fault : FileFault) : WriteFault := ⟨fault.kind.name, fault.message⟩

/-- Writes markup to a file, and makes the directories that it needs. The file is opened before the
markup is encoded, so that markup which cannot be its content leaves it empty. -/
def Storage.writeMarkup (storage : Storage m) (path : Path) (markup : Text) :
    m (Except WriteFault Unit) := do
  match nameFault? path.parent.text, contentFault? markup with
  | some fault, _ => return .error fault
  | none, none => return (← storage.write path markup).mapError FileFault.toWriteFault
  | none, some fault =>
    return (← storage.write path []).mapError FileFault.toWriteFault >>= fun _ => .error fault

/-- Writes the parts below a directory, up to the first that cannot be written. -/
def writeParts (storage : Storage m) (directory : Path) :
    List (Part × Text) → Job m (Option (Part × WriteFault))
  | [] => return none
  | (part, markup) :: parts => do
    let path := directory.join (.ofText part.path.toList)
    match ← Job.ask (storage.writeMarkup path markup) with
    | .ok () =>
      Job.log [⟨.debug, .command, s!"Wrote {part.name} to {String.ofList path.text}"⟩]
      writeParts storage directory parts
    | .error fault => return some (part, fault)

/-- The names of parts, separated by commas. -/
def partList (parts : List (Part × Text)) : String :=
  if parts.isEmpty then "(none)" else ", ".intercalate (parts.map fun part => part.1.name)

/-- The lines for the outcome of a merge. -/
def mergeLines (result : MergeResult) (out : Text) : List String :=
  let unresolved := ", ".intercalate (result.report.unresolved.map String.ofList)
  heading "docmerge - Merge" ++
    [s!"Parts: {partList result.parts}",
      s!"Variables substituted: {result.report.substituted}",
      s!"Conditionals resolved: {result.report.decided}"] ++
    (if result.report.unresolved.isEmpty then [] else [warning s!"Unresolved: {unresolved}"]) ++
    if result.success then
      [confirmation s!"Wrote {result.parts.length} part(s) to {String.ofList out}"]
    else []

/-- What is shown of the outcome of a merge. -/
def mergeAnswer (result : MergeResult) (out : Text) (json : Bool) : Answer where
  exit := if result.success then .ok else .mergeFailed
  out := if json then jsonOutput result.record else outputLines (mergeLines result out)
  problem := result.error.map fun fault => s!"Merge failed: {fault.message}"

/-- Merges a document and writes its parts. -/
def runMerge (storage : Storage m) (now : Moment) (request : Request) (parts : List Text)
    (sources : SourceFiles) (out : Text) (json : Bool) : Job m Answer := do
  let configuration ← readConfiguration storage request
  let document ← readDocument storage parts
  let context ← readContext storage now configuration sources
  Job.log (logMerge configuration.settings context document)
  match prepareMerge configuration.settings context document with
  | .error fault => return { exit := .mergeFailed, out := "", problem := some fault.text }
  | .ok prepared =>
    let result := prepared.conclude (← writeParts storage (.ofText out) prepared.parts)
    Job.log result.log
    return mergeAnswer result out json

/-! ## Showing values -/

/-- Shows the values that a document would be merged with. -/
def runContext (storage : Storage m) (now : Moment) (request : Request) (sources : SourceFiles) :
    Job m Answer := do
  let configuration ← readConfiguration storage request
  let context ← readContext storage now configuration sources
  return { exit := .ok, out := jsonOutput context.toValue }

/-! ## Runs -/

/-- What a run of the program leaves. -/
structure Outcome where
  /-- How the program ends. -/
  exit : ExitCode
  /-- The output. -/
  out : String
  /-- The error output. -/
  err : String
  deriving Repr, DecidableEq

/-- Does what a request asks for. -/
def Request.job (storage : Storage m) (now : Moment) (request : Request) : Job m Answer :=
  match request.task with
  | .validate parts json => runValidate storage request parts json
  | .merge parts sources out json => runMerge storage now request parts sources out json
  | .context sources => runContext storage now request sources

/-- What a command leaves, with its log down to a severity. -/
def outcomeOf (level : Severity) : Except Failure Answer × List LogEntry → Outcome
  | (.ok answer, log) =>
    { exit := answer.exit
      out := answer.out
      err := LogEntry.shown level log ++
        outputLines (answer.problem.toList.map complaint) }
  | (.error failure, log) =>
    { exit := failure.exit
      out := ""
      err := LogEntry.shown level log ++ outputLines [complaint failure.message] }

/-- How the program is used. -/
def usage : String :=
  outputLines
    ["usage: docmerge [--version] [--log-level DEBUG|INFO|WARNING|ERROR] COMMAND ...", "",
      "  validate [-c CONFIG] [--json] PART...",
      "  merge -f FIELDS [-m MAPPING] [-s SYSTEM] [-c CONFIG] [-o OUT] [--strict] [--json] PART...",
      "  context -f FIELDS [-m MAPPING] [-s SYSTEM] [-c CONFIG]", "",
      "A part is given as PART=FILE (PART is body, header-1..3, footer-1..3) or as the name of a",
      "container file (document.xml, header2.xml, footer1.xml)."]

/-- What arguments leave that are not read to their end. -/
def Interruption.outcome : Interruption → Outcome
  | help => { exit := .ok, out := usage, err := "" }
  | version => { exit := .ok, out := outputLines [programVersion], err := "" }
  | fault _ => { exit := .badArguments, out := "", err := usage }

/-- A run with given arguments. -/
def run (storage : Storage m) (now : Moment) (arguments : List Text) : m Outcome :=
  match Request.ofArguments arguments with
  | .error interruption => pure interruption.outcome
  | .ok none => pure { exit := .noCommand, out := usage, err := "" }
  | .ok (some request) => do
    let (result, log) ← (request.job storage now).run.run []
    return outcomeOf request.level (result, log)

end FormLetter
