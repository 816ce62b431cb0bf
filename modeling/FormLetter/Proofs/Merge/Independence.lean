import FormLetter.Proofs.Merge.Forwarding

/-!
# Parts are merged independently

The merge of a document is the merge of each of its parts on its own, put together in canonical
order, whatever the order in which the parts were named.

* `MergeResult.OfParts`: a result that is put together from parts merged on their own.
* `MergeResult.HandsOn`: what the sink of a merge takes.
* `mergeDocument_ofNames`: naming the parts in another order changes nothing, no part has an
  influence on another one, and the sink takes every diagnostic once.
-/

namespace FormLetter

/-- A result that is put together from the parts of a document, each merged on its own, in canonical
order; neither a sink nor its state has an influence on a part. -/
def MergeResult.OfParts (result : MergeResult) (settings : Settings) (context : Context)
    (document : Document) : Prop :=
  ∀ {τ : Type} (sink : Sink τ) (behind : τ),
    let merged (item : Part × Text) :=
      (sink.mergePart settings item.1.name item.2 context behind).1
    result.parts = document.items.map (fun item => (item.1, (merged item).1)) ∧
    result.report.parts = document.items.map fun item => (merged item).2

/-- What a merge hands on: the absent parts, then what was noticed in each part, then the fault that
ended the merge, if there is one. -/
structure MergeResult.HandsOn (result : MergeResult) (document : Document)
    (received : List Diagnostic) : Prop where
  /-- The diagnostics come in this order. -/
  order : ∃ fatal : List Diagnostic,
    received = document.missing.map missingDiagnostic ++
      result.report.parts.flatMap PartReport.diagnostics ++ fatal ∧
    result.report.diagnostics = document.missing.map missingDiagnostic ++ fatal ∧
    if result.success then fatal = []
    else ∃ kind fault, kind.isFatal = true ∧ result.error = some fault ∧
      fatal = [fatalDiagnostic kind fault]
  /-- None is lost, and none comes twice. -/
  perm : received.Perm result.report.allDiagnostics

section

variable {settings : Settings} {context : Context} {document : Document} {σ : Type}

theorem ofParts_of_prepared {result : MergeResult}
    (hparts : result.parts = (preparedOf settings context document).parts)
    (hreports : result.report.parts = (preparedOf settings context document).report.parts) :
    result.OfParts settings context document := by
  intro τ sink behind merged
  have hmerged (item : Part × Text) :
      merged item = mergePart settings item.1.name item.2 context := by
    show (sink.mergePart settings item.1.name item.2 context behind).1 = _
    rw [Sink.mergePart_eq]
  simp only [hmerged]
  constructor
  · rw [hparts, parts_preparedOf]
  · rw [hreports, report_preparedOf, reportOf, mergeParts, List.map_map]
    rfl

theorem handsOn_success {parts : List (Part × Text)} :
    MergeResult.HandsOn
      { success := true, parts, report := (preparedOf settings context document).report } document
      (forwarded (preparedOf settings context document).report) := by
  refine ⟨⟨[], ?_, (List.append_nil _).symm, rfl⟩, forwarded_perm _⟩
  rw [report_preparedOf, forwarded_reportOf, List.append_nil]
  rfl

theorem handsOn_failed (merged : List (Part × Text × PartReport)) (parts : List (Part × Text))
    {kind : Diagnostic.Kind} (fault : Fault) (h : kind.isFatal = true) :
    (failed parts (reportOf document merged) kind fault).HandsOn document
      (forwarded (failed parts (reportOf document merged) kind fault).report) := by
  refine ⟨⟨[fatalDiagnostic kind fault], ?_, rfl, kind, fault, h, rfl, rfl⟩, forwarded_perm _⟩
  rw [forwarded_failed document merged parts fault h]
  rfl

/-- A merge that is not strict gives a result, put together from the parts. -/
theorem mergeDocument_lenient (h : settings.strict = false) (context : Context)
    (document : Document) (writer : Writer σ) (state : σ) :
    ∃ result final, mergeDocument settings context document writer state = (.ok result, final) ∧
      result.OfParts settings context document ∧
      result.HandsOn document (forwarded result.report) := by
  by_cases hne : document.items = []
  · refine ⟨_, state, mergeDocument_of_items_nil hne, ?_, handsOn_failed [] [] noPartsFault rfl⟩
    apply ofParts_of_prepared
    · rw [parts_preparedOf, hne]
      rfl
    · rw [report_preparedOf, mergeParts, hne]
      rfl
  · have hprepare := @prepareMerge_eq settings context document hne
    rw [h, if_neg Bool.false_ne_true] at hprepare
    rw [mergeDocument_of_ok hprepare]
    rcases writeAll writer state (preparedOf settings context document).parts with
      ⟨final, _ | ⟨part, fault⟩⟩
    · rw [conclude_taken hne]
      exact ⟨_, final, rfl, ofParts_of_prepared rfl rfl, handsOn_success⟩
    · rw [conclude_rejected hne]
      exact ⟨_, final, rfl, ofParts_of_prepared rfl rfl, handsOn_failed _ _ _ rfl⟩

variable {names : List (Text × Option Text)} {τ : Type}

/-- **Independence of the parts.** Let names be those of different parts, and let the document that
they give be merged with a nesting limit of at least one, neither strictly nor several parts at a
time. The same names in another order give the same result and leave writer and sink in the same
state. The result holds exactly the parts that are named with their markup, in canonical order; the
text and the report of each of them are those of the part merged on its own. The sink takes all
diagnostics of the report, each once: the absent parts, what was noticed in each part, and the fault
that ended the merge. -/
theorem mergeDocument_ofNames (hd : 1 ≤ settings.maxNestingDepth)
    (h : (names.filterMap fun entry => Part.parse? entry.1).Nodup) (context : Context)
    (writer : Writer σ) (state : σ) (sink : Sink τ) (behind : τ) :
    let settings := { settings with strict := false, parallelParts := false }
    let merge (names : List (Text × Option Text)) :=
      sink.mergeDocument settings context (Document.ofNames names) writer state behind
    let document := Document.ofNames names
    refusesDocument settings document = false ∧
      (∀ others, others.Perm names → merge others = merge names) ∧
      (∀ part markup, (part, markup) ∈ document.items ↔
        ∃ name, (name, some markup) ∈ names ∧ Part.parse? name = some part) ∧
      document.items.map Prod.fst = document.present ∧
      ∃ result final received,
        merge names = (.ok result, final, received.foldl sink.receive behind) ∧
        result.OfParts settings context document ∧ result.HandsOn document received := by
  intro settings merge document
  refine ⟨refusesDocument_of_one_le hd document, ?_, ?_, document.map_fst_items, ?_⟩
  · intro others hperm
    show sink.mergeDocument settings context (Document.ofNames others) writer state behind = _
    rw [Document.ofNames_perm h hperm]
  · intro part markup
    rw [Document.mem_items_iff, Document.markup?_ofNames_iff h]
  · obtain ⟨result, final, hmerge, hparts, hhands⟩ :=
      @mergeDocument_lenient settings σ rfl context document writer state
    refine ⟨result, final, forwarded result.report, ?_, hparts, hhands⟩
    show sink.mergeDocument settings context document writer state behind = _
    rw [Sink.mergeDocument_eq, hmerge]
    rfl

end

/-- A body and a header, each with a tag that nothing replaces, named in two orders. -/
theorem mergeDocument_ofNames_reverse :
    let settings : Settings := {}
    let context : Context := .ofList [("A".toList, "x".toList)]
    let names : List (Text × Option Text) :=
      [("footer2".toList, none), (" word/header1.xml".toList, some "{$H}".toList),
        ("appendix".toList, some "a".toList), ("BODY".toList, some "{$A}{$B}".toList)]
    let merge (names : List (Text × Option Text)) :=
      Sink.keeping.mergeDocument { settings with strict := false, parallelParts := false } context
        (Document.ofNames names) Writer.discard () []
    1 ≤ settings.maxNestingDepth ∧
      (names.filterMap fun entry => Part.parse? entry.1).Nodup ∧
      merge names.reverse = merge names ∧
      ∃ result received, merge names = (.ok result, (), received) ∧
        result.HandsOn (Document.ofNames names) received ∧
        received.map (fun diagnostic => (diagnostic.kind, diagnostic.part)) =
          [(.partMissing, some "header-2"), (.partMissing, some "header-3"),
            (.partMissing, some "footer-1"), (.partMissing, some "footer-2"),
            (.partMissing, some "footer-3"), (.unresolvedVariable, some "body"),
            (.unresolvedVariable, some "header-1")] := by
  intro settings context names merge
  have hd : 1 ≤ settings.maxNestingDepth := by decide
  have hnodup : (names.filterMap fun entry => Part.parse? entry.1).Nodup := by decide +kernel
  obtain ⟨-, hperm, -, -, result, ⟨⟩, received, hmerge, -, hhands⟩ :=
    mergeDocument_ofNames hd hnodup context Writer.discard () Sink.keeping []
  rw [Sink.foldl_keeping, List.nil_append] at hmerge
  have hreceived : (merge names).2.2 = received := congrArg (fun merged => merged.2.2) hmerge
  refine ⟨hd, hnodup, hperm _ names.reverse_perm, result, received, hmerge, hhands, ?_⟩
  rw [← hreceived]
  decide +kernel

end FormLetter
