import FormLetter.Proofs.Document.Names
import FormLetter.Proofs.Merge.Strict

/-!
# Merges with a writer that may reject a part

A writer is given the merged parts in canonical order, up to the first that it rejects. What it does
has no influence on the merged text nor on the reports of the parts: the result holds the text of
every part that is present, and a rejection adds one diagnostic to those of the document.

* `Writer.Takes`: a writer takes parts one after the other.
* `Writer.Stops`: a writer takes parts and rejects the next one.
* `MergeResult.Rejected`: how a rejection shows in the result of a merge.
* `mergeDocument_writer`: what a writer is given and takes, and what comes of the merge.
-/

namespace FormLetter

section

variable {σ : Type}

/-! ## Writers -/

/-- A writer takes parts one after the other. -/
inductive Writer.Takes (writer : Writer σ) : σ → List (Part × Text) → σ → Prop where
  /-- Nothing is written. -/
  | nil (state : σ) : writer.Takes state [] state
  /-- The first part is taken, and so are the others after it. -/
  | cons {state inner final : σ} {part : Part} {text : Text} {parts : List (Part × Text)}
      (hwrite : writer.write state part text = (inner, none))
      (hparts : writer.Takes inner parts final) :
      writer.Takes state ((part, text) :: parts) final

/-- A writer takes parts one after the other and rejects the next one. -/
def Writer.Stops (writer : Writer σ) (state : σ) (taken : List (Part × Text)) (part : Part)
    (text : Text) (fault : WriteFault) (final : σ) : Prop :=
  ∃ reached, writer.Takes state taken reached ∧
    writer.write reached part text = (final, some fault)

variable {writer : Writer σ} {state reached final : σ} {taken parts : List (Part × Text)}
  {part : Part} {text : Text} {fault : WriteFault}

theorem Writer.Takes.writeAll_append (h : writer.Takes state taken reached)
    (parts : List (Part × Text)) :
    writeAll writer state (taken ++ parts) = writeAll writer reached parts := by
  induction h with
  | nil => rfl
  | cons hwrite _ ih =>
    rw [List.cons_append, writeAll_cons_of_taken hwrite]
    exact ih

theorem Writer.Takes.writeAll_eq (h : writer.Takes state parts final) :
    writeAll writer state parts = (final, none) := by
  have hparts := h.writeAll_append []
  rw [List.append_nil] at hparts
  exact hparts

theorem Writer.Stops.writeAll_eq (h : writer.Stops state taken part text fault final)
    (rest : List (Part × Text)) :
    writeAll writer state (taken ++ (part, text) :: rest) = (final, some (part, fault)) := by
  obtain ⟨reached, htaken, hwrite⟩ := h
  rw [htaken.writeAll_append, writeAll_cons_of_rejected hwrite]

/-- A writer either takes all parts or stops at one of them. -/
theorem Writer.takes_or_stops (writer : Writer σ) (state : σ) (parts : List (Part × Text)) :
    (∃ final, writer.Takes state parts final) ∨
      ∃ taken part text rest fault final, parts = taken ++ (part, text) :: rest ∧
        writer.Stops state taken part text fault final := by
  induction parts generalizing state with
  | nil => exact Or.inl ⟨state, .nil state⟩
  | cons entry parts ih =>
    obtain ⟨part, text⟩ := entry
    rcases hwrite : writer.write state part text with ⟨inner, _ | fault⟩
    · rcases ih inner with ⟨final, hparts⟩ | ⟨taken, next, markup, rest, fault, final, rfl, hstops⟩
      · exact Or.inl ⟨final, .cons hwrite hparts⟩
      · obtain ⟨reached, htaken, hrejected⟩ := hstops
        exact Or.inr ⟨(part, text) :: taken, next, markup, rest, fault, final, rfl,
          reached, .cons hwrite htaken, hrejected⟩
    · exact Or.inr ⟨[], part, text, parts, fault, inner, rfl, state, .nil state, hwrite⟩

/-- A writer that stops at a part takes nothing that goes on beyond it. -/
theorem Writer.Stops.isPrefix (h : writer.Stops state taken part text fault final)
    {rest other : List (Part × Text)} {behind : σ}
    (hother : other <+: taken ++ (part, text) :: rest)
    (htakes : writer.Takes state other behind) : other <+: taken := by
  rcases h with ⟨reached, htaken, hrejected⟩
  induction htaken generalizing other with
  | nil state =>
    cases htakes with
    | nil => exact List.prefix_rfl
    | cons hwrite _ =>
      obtain ⟨heq, -⟩ := List.cons_prefix_cons.1 hother
      cases heq
      rw [hwrite] at hrejected
      cases hrejected
  | cons hfirst _ ih =>
    cases htakes with
    | nil => exact List.nil_prefix
    | cons hwrite hparts =>
      obtain ⟨heq, hprefix⟩ := List.cons_prefix_cons.1 hother
      cases heq
      rw [hfirst] at hwrite
      cases hwrite
      exact List.cons_prefix_cons.2 ⟨rfl, ih hprefix hparts hrejected⟩

/-! ## What a writer is given -/

theorem Writer.Takes.recording (h : writer.Takes state parts final) (calls : List (Part × Text)) :
    writer.recording.Takes (state, calls) parts (final, calls ++ parts) := by
  induction h generalizing calls with
  | nil state =>
    rw [List.append_nil]
    exact .nil _
  | @cons _ _ _ part text _ hwrite _ ih =>
    have hparts := ih (calls ++ [(part, text)])
    rw [List.append_assoc] at hparts
    exact .cons (Writer.write_recording hwrite calls) hparts

theorem Writer.Stops.recording (h : writer.Stops state taken part text fault final)
    (calls : List (Part × Text)) :
    writer.recording.Stops (state, calls) taken part text fault
      (final, calls ++ taken ++ [(part, text)]) := by
  obtain ⟨reached, htaken, hwrite⟩ := h
  exact ⟨(reached, calls ++ taken), htaken.recording calls, Writer.write_recording hwrite _⟩

end

/-! ## Documents -/

section

variable {settings : Settings} {context : Context} {document : Document}

theorem parts_preparedOf (settings : Settings) (context : Context) (document : Document) :
    (preparedOf settings context document).parts =
      document.items.map fun item =>
        (item.1, (mergePart settings item.1.name item.2 context).1) := by
  rw [preparedOf, mergeParts, List.map_map]
  rfl

theorem report_preparedOf (settings : Settings) (context : Context) (document : Document) :
    (preparedOf settings context document).report =
      reportOf document (mergeParts settings context document) := rfl

theorem isEmpty_parts_preparedOf (hne : document.items ≠ []) :
    (preparedOf settings context document).parts.isEmpty = false := by
  rw [preparedOf, List.isEmpty_map]
  exact isEmpty_mergeParts hne

/-- How the rejection of a part shows in the result of a merge, compared to the merge of the same
document without a writer. -/
structure MergeResult.Rejected (result plain : MergeResult) (part : Part) (fault : WriteFault) :
    Prop where
  /-- The merge did not go through. -/
  success : result.success = false
  /-- The error names the part and the kind of the failure. -/
  error : ∃ error, result.error = some error ∧ error.kind = .partWrite ∧
    error.part = some part.name ∧ error.details = [("error_type", stringValue fault.kind)] ∧
    error.message = s!"Writer rejected part {part.name}: {fault.message}"
  /-- The document has one diagnostic more, the only one about a rejection. -/
  diagnostics : ∃ diagnostic, diagnostic.kind = .partWriteFailure ∧
    diagnostic.part = some part.name ∧
    result.report.diagnostics = plain.report.diagnostics ++ [diagnostic] ∧
    result.report.diagnostics.filter (fun other => other.kind = .partWriteFailure) = [diagnostic]

theorem filter_missing (document : Document) :
    (document.missing.map missingDiagnostic).filter
      (fun diagnostic => diagnostic.kind = .partWriteFailure) = [] := by
  rw [List.filter_eq_nil_iff]
  intro diagnostic hmem
  obtain ⟨part, -, rfl⟩ := List.mem_map.1 hmem
  exact of_decide_eq_true rfl

theorem conclude_taken (hne : document.items ≠ []) :
    (preparedOf settings context document).conclude none =
      { success := true, parts := (preparedOf settings context document).parts,
        report := (preparedOf settings context document).report } := by
  rw [Prepared.conclude, isEmpty_parts_preparedOf hne]
  rfl

theorem conclude_rejected (hne : document.items ≠ []) (part : Part) (fault : WriteFault) :
    (preparedOf settings context document).conclude (some (part, fault)) =
      failed (preparedOf settings context document).parts
        (preparedOf settings context document).report .partWriteFailure (rejection part fault) := by
  rw [Prepared.conclude, isEmpty_parts_preparedOf hne]
  rfl

theorem rejected_failed {plain : MergeResult} {merged : List (Part × Text × PartReport)}
    (h : plain.report = reportOf document merged) (parts : List (Part × Text)) (part : Part)
    (fault : WriteFault) :
    (failed parts (reportOf document merged) .partWriteFailure
      (rejection part fault)).Rejected plain part fault := by
  refine ⟨rfl, ⟨rejection part fault, rfl, rfl, rfl, rfl, rfl⟩, ?_⟩
  refine ⟨fatalDiagnostic .partWriteFailure (rejection part fault), rfl, rfl, ?_, ?_⟩
  · rw [h]
    rfl
  · show List.filter _ (document.missing.map missingDiagnostic ++ [_]) = _
    rw [List.filter_append, filter_missing]
    rfl

section

variable {σ : Type} {writer : Writer σ} {state final : σ} {taken rest : List (Part × Text)}
  {part : Part} {text : Text} {fault : WriteFault}

/-- A merge whose writer takes all parts. -/
theorem mergeDocument_of_takes (hne : document.items ≠ [])
    (h : writer.Takes state (preparedOf settings context document).parts final) :
    mergeDocument { settings with strict := false } context document writer state =
      (.ok { success := true, parts := (preparedOf settings context document).parts,
             report := (preparedOf settings context document).report }, final) := by
  rw [mergeDocument_of_ok (prepareMerge_lenient settings context document), h.writeAll_eq,
    conclude_taken hne]

/-- A merge whose writer stops at a part. -/
theorem mergeDocument_of_stops (h : writer.Stops state taken part text fault final)
    (hparts : (preparedOf settings context document).parts = taken ++ (part, text) :: rest) :
    mergeDocument { settings with strict := false } context document writer state =
      (.ok ((preparedOf settings context document).conclude (some (part, fault))), final) := by
  have hwritten := h.writeAll_eq rest
  rw [← hparts] at hwritten
  rw [mergeDocument_of_ok (prepareMerge_lenient settings context document), hwritten]

theorem writerCalls_of_takes (hne : document.items ≠ [])
    (h : writer.Takes state (preparedOf settings context document).parts final) :
    writerCalls { settings with strict := false } context document writer state =
      (preparedOf settings context document).parts := by
  rw [writerCalls, mergeDocument_of_takes hne (h.recording [])]
  rfl

theorem writerCalls_of_stops (h : writer.Stops state taken part text fault final)
    (hparts : (preparedOf settings context document).parts = taken ++ (part, text) :: rest) :
    writerCalls { settings with strict := false } context document writer state =
      taken ++ [(part, text)] := by
  rw [writerCalls, mergeDocument_of_stops (h.recording []) hparts]
  rfl

end

/-- **Writing merged parts.** Let a document with parts be merged with a nesting limit of at least
one, and not strictly. Whatever the writer, the merge is carried out, and its result holds the text
of every part that is present and the same reports of the parts as the merge without a writer. The
writer takes the parts in canonical order, up to the first that it rejects, and is given none after
that one. The merge goes through exactly if it takes them all; else the result tells which part was
rejected and why, and nothing else is changed. -/
theorem mergeDocument_writer (hd : 1 ≤ settings.maxNestingDepth) (hne : document.items ≠ []) :
    let lenient := { settings with strict := false }
    refusesDocument lenient document = false ∧
    ∃ plain : MergeResult,
      (mergeDocument lenient context document Writer.discard ()).1 = .ok plain ∧
      plain.success = true ∧
      plain.parts.map Prod.fst = document.present ∧
      ∀ {σ : Type} (writer : Writer σ) (state : σ),
        ∃ result final taken reached,
          mergeDocument lenient context document writer state = (.ok result, final) ∧
          result.parts = plain.parts ∧ result.report.parts = plain.report.parts ∧
          taken <+: plain.parts ∧ writer.Takes state taken reached ∧
          (∀ other behind, other <+: plain.parts → writer.Takes state other behind →
            other <+: taken) ∧
          (result.success = true ↔ taken = plain.parts) ∧
          (taken = plain.parts → result = plain ∧ final = reached ∧
            writerCalls lenient context document writer state = taken) ∧
          ∀ part text rest, plain.parts = taken ++ (part, text) :: rest →
            ∃ fault, writer.write reached part text = (final, some fault) ∧
              writerCalls lenient context document writer state = taken ++ [(part, text)] ∧
              result.Rejected plain part fault := by
  intro lenient
  refine ⟨refusesDocument_of_one_le hd document, _, mergeDocument_discard hne, rfl, ?_, ?_⟩
  · rw [parts_preparedOf, List.map_map]
    exact document.map_fst_items
  intro σ writer state
  rcases writer.takes_or_stops state (preparedOf settings context document).parts with
    ⟨final, htakes⟩ | ⟨taken, part, text, rest, fault, final, hparts, hstops⟩
  · refine ⟨_, final, _, final, mergeDocument_of_takes hne htakes, rfl, rfl, List.prefix_rfl,
      htakes, fun other _ hother _ => hother, ⟨fun _ => rfl, fun _ => rfl⟩,
      fun _ => ⟨rfl, rfl, writerCalls_of_takes hne htakes⟩, ?_⟩
    intro part text rest hparts
    exact absurd (List.self_eq_append_right.1 hparts) (List.cons_ne_nil _ _)
  · have hrest : taken ≠ (preparedOf settings context document).parts := by
      rw [hparts]
      exact fun h => absurd (List.self_eq_append_right.1 h) (List.cons_ne_nil _ _)
    have hmerge := mergeDocument_of_stops hstops hparts
    rw [conclude_rejected hne] at hmerge
    obtain ⟨reached, htaken, hwrite⟩ := id hstops
    refine ⟨_, final, taken, reached, hmerge, rfl, rfl, ?_, htaken, ?_,
      ⟨fun h => absurd h Bool.false_ne_true, fun h => absurd h hrest⟩, fun h => absurd h hrest, ?_⟩
    · exact ⟨_, hparts.symm⟩
    · intro other behind hother htakes
      exact hstops.isPrefix (hparts ▸ hother) htakes
    · intro next markup others hothers
      obtain ⟨hentry, -⟩ := List.cons.inj (List.append_cancel_left (hparts.symm.trans hothers))
      cases hentry
      refine ⟨fault, hwrite, writerCalls_of_stops hstops hparts, ?_⟩
      exact rejected_failed (report_preparedOf settings context document) _ part fault

end

/-- A disk with room for one character takes the body and is full at the first header. -/
theorem mergeDocument_writer_full :
    let settings : Settings := {}
    let context : Context := .ofList [("A".toList, "x".toList)]
    let document :=
      Document.ofParts [(.footer2, "{$A}!".toList), (.header1, "h".toList), (.body, "{$A}".toList)]
    let fault : WriteFault := ⟨"OSError", "disk full"⟩
    let disk : Writer Nat :=
      ⟨fun room _ text => if text.length ≤ room then (room - text.length, none)
        else (room, some fault)⟩
    1 ≤ settings.maxNestingDepth ∧ document.items ≠ [] ∧
      ∃ plain result, mergeDocument { settings with strict := false } context document disk 1 =
          (.ok result, 0) ∧
        result.parts = [(.body, ['x']), (.header1, ['h']), (.footer2, ['x', '!'])] ∧
        writerCalls { settings with strict := false } context document disk 1 =
          [(.body, ['x']), (.header1, ['h'])] ∧
        result.Rejected plain .header1 fault := by
  intro settings context document fault disk
  have hd : 1 ≤ settings.maxNestingDepth := by decide
  have hne : document.items ≠ [] := by decide +kernel
  obtain ⟨-, plain, hplain, -, -, hwriter⟩ := @mergeDocument_writer settings context document hd hne
  obtain ⟨result, final, taken, reached, hmerge, hparts, -, hprefix, htakes, hlongest, -, -,
    hrejected⟩ := hwriter disk 1
  have hmerged : plain.parts = [(.body, ['x']), (.header1, ['h']), (.footer2, ['x', '!'])] := by
    have hmatch : (match (mergeDocument { settings with strict := false } context document
        Writer.discard ()).1 with
      | .ok plain =>
        decide (plain.parts = [(.body, ['x']), (.header1, ['h']), (.footer2, ['x', '!'])])
      | .error _ => false) = true := by decide +kernel
    rw [hplain] at hmatch
    exact of_decide_eq_true hmatch
  have htaken : taken = [(.body, ['x'])] := by
    have hbody : disk.Takes 1 [(.body, ['x'])] 0 := .cons rfl (.nil 0)
    have hfirst := hlongest _ _ (hmerged ▸ List.prefix_append [_] [_, _]) hbody
    obtain ⟨more, rfl⟩ := hfirst
    cases more with
    | nil => rfl
    | cons entry more =>
      rw [hmerged] at hprefix
      obtain ⟨-, hprefix⟩ := List.cons_prefix_cons.1 hprefix
      obtain ⟨rfl, -⟩ := List.cons_prefix_cons.1 hprefix
      have hwritten := htakes.writeAll_eq
      rw [hbody.writeAll_append] at hwritten
      cases hwritten
  subst htaken
  obtain ⟨found, hwrite, hcalls, hresult⟩ :=
    hrejected .header1 ['h'] [(.footer2, ['x', '!'])] hmerged
  cases htakes with
  | cons hbody hnil =>
    cases hbody
    cases hnil
    cases hwrite
    exact ⟨hd, hne, plain, result, hmerge, hparts.trans hmerged, hcalls, hresult⟩

end FormLetter
