import FormLetter.Merge.Relay
import FormLetter.Proofs.Merge.Writing

/-!
# What the sink of a merge takes

The collectors of a merge lose no diagnostic and hand none on twice. Neither the sink nor the other
parts have any influence on the merged text and the report of a part.

* `Sink.emitAll_eq`: what a collector keeps, and what the sink behind it takes.
* `Sink.mergePart_eq`, `Sink.mergeParts_eq`, `Sink.mergeDocument_eq`: a merge with a sink is the
  merge without one, and the sink takes what was forwarded.
* `forwarded_perm`: what was forwarded are all diagnostics of the report, in another order.
-/

namespace FormLetter

/-! ## Attribution to a part -/

theorem Diagnostic.inPart_none (diagnostic : Diagnostic) : diagnostic.inPart none = diagnostic := by
  rw [inPart, Option.or_none]

/-- The diagnostics of merged parts. -/
def diagnosticsOf (merged : List (Part × Text × PartReport)) : List Diagnostic :=
  (merged.map fun entry => entry.2.2).flatMap PartReport.diagnostics

namespace Sink

section

variable {τ : Type} (sink : Sink τ)

/-- The sink that keeps what it takes has kept exactly that. -/
theorem foldl_keeping (kept diagnostics : List Diagnostic) :
    diagnostics.foldl keeping.receive kept = kept ++ diagnostics := by
  induction diagnostics generalizing kept with
  | nil => exact (List.append_nil kept).symm
  | cons diagnostic diagnostics ih =>
    rw [List.foldl_cons, ih]
    exact List.append_assoc kept [diagnostic] diagnostics

theorem emitAll_eq (relay : Relay τ) (diagnostics : List Diagnostic) :
    sink.emitAll relay diagnostics =
      ⟨{ relay.collector with
          diagnostics := relay.collector.diagnostics ++
            diagnostics.map (Diagnostic.inPart relay.collector.part) },
        (diagnostics.map (Diagnostic.inPart relay.collector.part)).foldl sink.receive
          relay.behind⟩ := by
  unfold emitAll
  induction diagnostics generalizing relay with
  | nil => simp
  | cons diagnostic diagnostics ih =>
    rw [List.foldl_cons, ih]
    simp [emit, Collector.record]

theorem note_eq (relay : Relay τ) (findings : List Finding) :
    sink.note relay findings =
      ⟨{ relay.collector with
          diagnostics := relay.collector.diagnostics ++
            findings.map (Finding.toDiagnostic relay.collector.part) },
        (findings.map (Finding.toDiagnostic relay.collector.part)).foldl sink.receive
          relay.behind⟩ := by
  rw [note, emitAll_eq, List.map_map]
  rfl

/-! ## Parts -/

/-- The merge of a part with a sink is the merge without one, and the sink takes the diagnostics of
its report. -/
theorem mergePart_eq (settings : Settings) (part : String) (markup : Text) (context : Context)
    (behind : τ) :
    sink.mergePart settings part markup context behind =
      (FormLetter.mergePart settings part markup context,
        (FormLetter.mergePart settings part markup context).2.diagnostics.foldl sink.receive
          behind) := by
  unfold mergePart FormLetter.mergePart
  simp only [note_eq, List.nil_append, List.map_append, List.foldl_append]

theorem mergeParts_eq (settings : Settings) (context : Context) (document : Document)
    (behind : τ) :
    sink.mergeParts settings context document.items behind =
      (FormLetter.mergeParts settings context document,
        (diagnosticsOf (FormLetter.mergeParts settings context document)).foldl sink.receive
          behind) := by
  unfold FormLetter.mergeParts
  induction document.items generalizing behind with
  | nil => rfl
  | cons item items ih =>
    obtain ⟨part, markup⟩ := item
    simp only [mergeParts, mergePart_eq, ih, diagnosticsOf, List.map_cons, List.flatMap_cons,
      List.foldl_append]

end

end Sink

/-! ## What is forwarded -/

theorem forwarded_eq (report : MergeReport) :
    forwarded report =
      report.diagnostics.filter (fun diagnostic => !diagnostic.kind.isFatal) ++
        report.parts.flatMap PartReport.diagnostics ++
        report.diagnostics.filter fun diagnostic => diagnostic.kind.isFatal := by
  unfold forwarded
  rw [List.partition_eq_filter_filter]
  rfl

/-- What was forwarded are all diagnostics of the report, in another order. -/
theorem forwarded_perm (report : MergeReport) : (forwarded report).Perm report.allDiagnostics := by
  rw [forwarded_eq, MergeReport.allDiagnostics]
  refine List.perm_append_comm.trans ?_
  rw [← List.append_assoc]
  exact (List.filter_append_perm _ report.diagnostics).append_right _

/-- What ends a merge is forwarded last. -/
theorem forwarded_of_append {report : MergeReport} {missing fatal : List Diagnostic}
    (h : report.diagnostics = missing ++ fatal)
    (hmissing : ∀ diagnostic ∈ missing, diagnostic.kind.isFatal = false)
    (hfatal : ∀ diagnostic ∈ fatal, diagnostic.kind.isFatal = true) :
    forwarded report = missing ++ report.parts.flatMap PartReport.diagnostics ++ fatal := by
  have hmissing' : missing.filter (fun diagnostic => diagnostic.kind.isFatal) = [] :=
    List.filter_eq_nil_iff.2 fun diagnostic hmem => by simp [hmissing diagnostic hmem]
  have hfatal' : fatal.filter (fun diagnostic => !diagnostic.kind.isFatal) = [] :=
    List.filter_eq_nil_iff.2 fun diagnostic hmem => by simp [hfatal diagnostic hmem]
  rw [forwarded_eq, h, List.filter_append, List.filter_append, hmissing', hfatal', List.append_nil,
    List.nil_append, List.filter_eq_self.2 hfatal, List.filter_eq_self.2]
  intro diagnostic hmem
  rw [hmissing diagnostic hmem]
  rfl

theorem isFatal_of_mem_missing {document : Document} {diagnostic : Diagnostic}
    (h : diagnostic ∈ document.missing.map missingDiagnostic) :
    diagnostic.kind.isFatal = false := by
  obtain ⟨part, -, rfl⟩ := List.mem_map.1 h
  rfl

theorem forwarded_reportOf (document : Document) (merged : List (Part × Text × PartReport)) :
    forwarded (reportOf document merged) =
      document.missing.map missingDiagnostic ++ diagnosticsOf merged := by
  rw [forwarded_of_append (List.append_nil _).symm (fun _ => isFatal_of_mem_missing)
    (fun _ hmem => absurd hmem List.not_mem_nil), List.append_nil]
  rfl

theorem forwarded_failed (document : Document) (merged : List (Part × Text × PartReport))
    (parts : List (Part × Text)) {kind : Diagnostic.Kind} (fault : Fault)
    (h : kind.isFatal = true) :
    forwarded (failed parts (reportOf document merged) kind fault).report =
      document.missing.map missingDiagnostic ++ diagnosticsOf merged ++
        [fatalDiagnostic kind fault] := by
  rw [forwarded_of_append rfl (fun _ => isFatal_of_mem_missing)]
  · rfl
  · intro diagnostic hmem
    rw [List.mem_singleton.1 hmem]
    exact h

/-! ## Documents -/

theorem prepareMerge_eq {settings : Settings} {context : Context} {document : Document}
    (hne : document.items ≠ []) :
    prepareMerge settings context document =
      match if settings.strict then firstProblem? (preparedOf settings context document).report
        else none with
      | some diagnostic => .error diagnostic.toFault
      | none => .ok (preparedOf settings context document) := by
  unfold prepareMerge
  simp only [isEmpty_mergeParts hne, Bool.not_false, Bool.and_true]
  rfl

namespace Sink

section

variable {σ τ : Type} (sink : Sink τ) {settings : Settings} {context : Context}
  {document : Document} {writer : Writer σ} {state : σ} {behind : τ}

/-- The diagnostics that a sink takes during a merge with an outcome. -/
def taken (settings : Settings) (context : Context) (document : Document) :
    Except Fault MergeResult → List Diagnostic
  | .ok result => forwarded result.report
  | .error _ => forwarded (reportOf document (FormLetter.mergeParts settings context document))

theorem fail_eq (relay : Relay τ) (parts : List (Part × Text)) (reports : List PartReport)
    (kind : Diagnostic.Kind) (fault : Fault) (h : relay.collector.part = none) :
    sink.fail relay parts reports kind fault =
      (failed parts ⟨reports, relay.collector.diagnostics⟩ kind fault,
        sink.receive relay.behind (fatalDiagnostic kind fault)) := by
  unfold fail emit failed Collector.record
  rw [h]
  simp only [Diagnostic.inPart_none]

/-- The collector of a document keeps a diagnostic for every part that is absent. -/
theorem emitAll_missing (document : Document) (behind : τ) :
    sink.emitAll { behind } (document.missing.map missingDiagnostic) =
      ⟨{ diagnostics := document.missing.map missingDiagnostic },
        (document.missing.map missingDiagnostic).foldl sink.receive behind⟩ := by
  have hmissing : (document.missing.map missingDiagnostic).map (Diagnostic.inPart none) =
      document.missing.map missingDiagnostic := by
    rw [List.map_map]
    exact List.map_congr_left fun part _ => Diagnostic.inPart_none _
  rw [emitAll_eq, hmissing]
  rfl

theorem mergeDocument_of_items_nil (h : document.items = []) :
    sink.mergeDocument settings context document writer state behind =
      ((FormLetter.mergeDocument settings context document writer state).1,
        (FormLetter.mergeDocument settings context document writer state).2,
        (taken settings context document
          (FormLetter.mergeDocument settings context document writer state).1).foldl sink.receive
          behind) := by
  rw [FormLetter.mergeDocument_of_items_nil h, taken, forwarded_failed document [] [] _ rfl,
    List.foldl_append, List.foldl_append]
  unfold mergeDocument
  rw [h, List.isEmpty_nil, if_pos rfl, emitAll_missing, fail_eq]
  · rfl
  · rfl

/-- What becomes of the parts of a document is the same with a sink and without one. -/
theorem finish_eq (hne : document.items ≠ []) (behind : τ) :
    let start := (document.missing.map missingDiagnostic ++
      diagnosticsOf (FormLetter.mergeParts settings context document)).foldl sink.receive behind
    sink.finish ⟨{ diagnostics := document.missing.map missingDiagnostic }, start⟩ settings
        (preparedOf settings context document) writer state =
      ((FormLetter.mergeDocument settings context document writer state).1,
        (FormLetter.mergeDocument settings context document writer state).2,
        (taken settings context document
          (FormLetter.mergeDocument settings context document writer state).1).foldl sink.receive
          behind) := by
  intro start
  have hprepare := @prepareMerge_eq settings context document hne
  unfold finish
  cases hproblem : (if settings.strict then
      firstProblem? (preparedOf settings context document).report else none) with
  | some diagnostic =>
    rw [hproblem] at hprepare
    rw [mergeDocument_of_error hprepare, taken, forwarded_reportOf]
  | none =>
    rw [hproblem] at hprepare
    rw [mergeDocument_of_ok hprepare]
    rcases hwritten : writeAll writer state (preparedOf settings context document).parts with
      ⟨final, _ | ⟨part, fault⟩⟩
    · simp only [conclude_taken hne, taken, report_preparedOf, forwarded_reportOf]
      rfl
    · simp only [conclude_rejected hne, taken, report_preparedOf]
      rw [forwarded_failed document _ _ _ rfl, List.foldl_append, fail_eq]
      · rfl
      · rfl

/-- The merge of a document with a sink is the merge without one, and the sink takes what is
forwarded. -/
theorem mergeDocument_eq :
    sink.mergeDocument settings context document writer state behind =
      ((FormLetter.mergeDocument settings context document writer state).1,
        (FormLetter.mergeDocument settings context document writer state).2,
        (taken settings context document
          (FormLetter.mergeDocument settings context document writer state).1).foldl sink.receive
          behind) := by
  by_cases hne : document.items = []
  · exact mergeDocument_of_items_nil sink hne
  · unfold mergeDocument
    rw [List.isEmpty_eq_false_iff.2 hne, if_neg Bool.false_ne_true, emitAll_missing]
    simp only [mergeParts_eq]
    rw [← finish_eq sink hne, List.foldl_append]
    rfl

end

end Sink

end FormLetter
