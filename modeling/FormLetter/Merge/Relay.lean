import FormLetter.Diagnostic.Collector
import FormLetter.Merge.Basic

/-!
# Merges with a sink

A merge may hand its diagnostics on to a sink as they arise. Every part has a collector of its own,
and the document as a whole has one too. A collector attributes a diagnostic to its part, keeps it
for the report and then hands it on; the sink is the same behind all of them.

* `Sink`: what takes diagnostics.
* `Relay`: a collector and the sink behind it.
* `Sink.mergePart`, `Sink.mergeParts`, `Sink.mergeDocument`: the merge of a part, of several parts
  one after the other, and of a document.
-/

namespace FormLetter

/-- What takes diagnostics. Whatever it does shows in its state. -/
structure Sink (τ : Type) where
  /-- Takes a diagnostic. -/
  receive : τ → Diagnostic → τ

/-- A collector and the state of the sink behind it. -/
structure Relay (τ : Type) where
  /-- The collector. -/
  collector : Collector := {}
  /-- The state of the sink. -/
  behind : τ

namespace Sink

variable {σ τ : Type}

/-- The sink that keeps what it takes. -/
def keeping : Sink (List Diagnostic) := ⟨fun kept diagnostic => kept ++ [diagnostic]⟩

/-- A collector as a sink. -/
def collecting : Sink Collector := ⟨fun collector diagnostic => collector.record diagnostic⟩

/-- Records a diagnostic and hands on what was recorded. -/
def emit (sink : Sink τ) (relay : Relay τ) (diagnostic : Diagnostic) : Relay τ where
  collector := relay.collector.record diagnostic
  behind := sink.receive relay.behind (diagnostic.inPart relay.collector.part)

/-- Records diagnostics one after the other. -/
def emitAll (sink : Sink τ) (relay : Relay τ) (diagnostics : List Diagnostic) : Relay τ :=
  diagnostics.foldl sink.emit relay

/-! ## Parts -/

/-- Records findings that are not yet attributed to a part. -/
def note (sink : Sink τ) (relay : Relay τ) (findings : List Finding) : Relay τ :=
  sink.emitAll relay (findings.map (Finding.toDiagnostic none))

/-- The merged text of a part and what happened in it, with a collector of its own. -/
def mergePart (sink : Sink τ) (settings : Settings) (part : String) (markup : Text)
    (context : Context) (behind : τ) : (Text × PartReport) × τ :=
  let normal := normalize settings.boundaries markup
  let relay := sink.note ⟨{ part := some part }, behind⟩ normal.findings
  let template := Template.parse settings.limits normal.text
  let relay := sink.note relay template.findings
  let rendered := Scope.render ⟨settings, context⟩ template.tokens
  let relay := sink.note relay rendered.findings
  ((rendered.text,
    { part := part
      substituted := rendered.substituted
      decided := rendered.decided
      repaired := normal.repaired
      unresolved := rendered.unresolved
      diagnostics := relay.collector.diagnostics }), relay.behind)

/-- The merged text and the report of parts, merged one after the other. -/
def mergeParts (sink : Sink τ) (settings : Settings) (context : Context) :
    List (Part × Text) → τ → List (Part × Text × PartReport) × τ
  | [], behind => ([], behind)
  | (part, markup) :: items, behind =>
    let (merged, behind) := sink.mergePart settings part.name markup context behind
    let (others, behind) := sink.mergeParts settings context items behind
    ((part, merged) :: others, behind)

/-! ## Documents -/

/-- A result that did not go through; the diagnostic for the fault is the last one. -/
def fail (sink : Sink τ) (relay : Relay τ) (parts : List (Part × Text)) (reports : List PartReport)
    (kind : Diagnostic.Kind) (fault : Fault) : MergeResult × τ :=
  let relay := sink.emit relay (fatalDiagnostic kind fault)
  ({ success := false
     parts := parts
     report := { parts := reports, diagnostics := relay.collector.diagnostics }
     error := some fault }, relay.behind)

/-- What becomes of merged parts: in strict mode the first problem is raised, else a writer is given
the parts. -/
def finish (sink : Sink τ) (relay : Relay τ) (settings : Settings) (prepared : Prepared)
    (writer : Writer σ) (state : σ) : Except Fault MergeResult × σ × τ :=
  match if settings.strict then firstProblem? prepared.report else none with
  | some diagnostic => (.error diagnostic.toFault, state, relay.behind)
  | none =>
    match writeAll writer state prepared.parts with
    | (state, none) =>
      (.ok { success := true, parts := prepared.parts, report := prepared.report }, state,
        relay.behind)
    | (state, some (part, fault)) =>
      let (result, behind) :=
        sink.fail relay prepared.parts prepared.report.parts .partWriteFailure
          (rejection part fault)
      (.ok result, state, behind)

/-- The merge of a document, with the states of the writer and of the sink after it. -/
def mergeDocument (sink : Sink τ) (settings : Settings) (context : Context) (document : Document)
    (writer : Writer σ) (state : σ) (behind : τ) : Except Fault MergeResult × σ × τ :=
  let relay := sink.emitAll { behind } (document.missing.map missingDiagnostic)
  if document.items.isEmpty then
    let (result, behind) := sink.fail relay [] [] .noPartsProcessed noPartsFault
    (.ok result, state, behind)
  else
    let (merged, behind) := sink.mergeParts settings context document.items relay.behind
    let prepared : Prepared :=
      { parts := merged.map fun entry => (entry.1, entry.2.1)
        report :=
          { parts := merged.map fun entry => entry.2.2
            diagnostics := relay.collector.diagnostics } }
    sink.finish { relay with behind } settings prepared writer state

end Sink

end FormLetter
