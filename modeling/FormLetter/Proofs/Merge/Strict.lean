import FormLetter.Merge.Basic
import FormLetter.Proofs.Render.Dependence

/-!
# Strict merges

Strictness does not reach the parts of a document: their merged text and their reports are the same
with it and without it. It decides what becomes of the first problem that is reported, after all parts
are merged and before any is written. A strict merge therefore raises exactly what a merge that is
not strict reports first, and else is the same merge.

* `mergePart_strict`: a part is merged alike with and without strictness.
* `MergeReport.FirstProblem`: the first warning or error of a report.
* `Writer.recording`, `writerCalls`: what a writer is given.
* `mergeDocument_strict`: strict merges raise the first problem, and write nothing then.
-/

namespace FormLetter

/-! ## Parts -/

section

variable (settings : Settings) (strict : Bool)

/-- A part is merged alike with and without strictness. -/
theorem mergePart_strict (part : String) (markup : Text) (context : Context) :
    mergePart { settings with strict := strict } part markup context =
      mergePart settings part markup context := by
  have hrender (tokens : List Token) :
      Scope.render ⟨{ settings with strict := strict }, context⟩ tokens =
        Scope.render ⟨settings, context⟩ tokens :=
    Scope.render_congr tokens fun token _ =>
      match token with
      | .literal _ => trivial
      | .tag _ => rfl
      | .block _ _ _ => fun _ _ => rfl
  unfold mergePart
  dsimp only
  rw [hrender]
  rfl

theorem mergeParts_strict (context : Context) (document : Document) :
    mergeParts { settings with strict := strict } context document =
      mergeParts settings context document := by
  unfold mergeParts
  simp only [mergePart_strict]

/-- With a nesting limit of at least one no part is refused. -/
theorem refusesDocument_of_one_le {settings : Settings} (h : 1 ≤ settings.maxNestingDepth)
    (document : Document) : refusesDocument settings document = false :=
  List.any_eq_false.2 fun item _ => by
    rw [refusesPart, Template.isRefused_of_one_le h]
    exact Bool.false_ne_true

end

/-! ## The first problem -/

theorem Severity.isProblem_iff {severity : Severity} :
    severity.isProblem = true ↔ severity = .warning ∨ severity = .error := by
  cases severity <;> decide

theorem Severity.isProblem_eq_false_iff {severity : Severity} :
    severity.isProblem = false ↔ severity = .debug ∨ severity = .info := by
  cases severity <;> decide

/-- The first diagnostic of a report that is a warning or an error. -/
structure MergeReport.FirstProblem (report : MergeReport) (diagnostic : Diagnostic) : Prop where
  /-- It is a warning or an error. -/
  severity : diagnostic.severity = .warning ∨ diagnostic.severity = .error
  /-- Nothing in front of it is. -/
  isFirst : ∃ before after, report.allDiagnostics = before ++ diagnostic :: after ∧
    ∀ earlier ∈ before, earlier.severity = .debug ∨ earlier.severity = .info

theorem firstProblem?_eq_some_iff {report : MergeReport} {diagnostic : Diagnostic} :
    firstProblem? report = some diagnostic ↔ report.FirstProblem diagnostic := by
  unfold firstProblem?
  rw [List.find?_eq_some_iff_append, Severity.isProblem_iff]
  simp only [Bool.not_eq_true', Severity.isProblem_eq_false_iff]
  exact ⟨fun ⟨hseverity, hfirst⟩ => ⟨hseverity, hfirst⟩, fun h => ⟨h.severity, h.isFirst⟩⟩

theorem firstProblem?_eq_none_iff {report : MergeReport} :
    firstProblem? report = none ↔
      ¬ ∃ diagnostic ∈ report.allDiagnostics,
        diagnostic.severity = .warning ∨ diagnostic.severity = .error := by
  unfold firstProblem?
  rw [List.find?_eq_none]
  simp only [Severity.isProblem_iff, not_exists, not_and]

/-! ## Writing -/

section

variable {σ : Type}

/-- The writer that also keeps what it is given. -/
def Writer.recording (writer : Writer σ) : Writer (σ × List (Part × Text)) where
  write state part text :=
    let (inner, rejected) := writer.write state.1 part text
    ((inner, state.2 ++ [(part, text)]), rejected)

variable {writer : Writer σ} {state inner : σ} {part : Part} {text : Text}

theorem Writer.write_recording {rejected : Option WriteFault}
    (h : writer.write state part text = (inner, rejected)) (calls : List (Part × Text)) :
    writer.recording.write (state, calls) part text =
      ((inner, calls ++ [(part, text)]), rejected) := by
  show (((writer.write state part text).1, calls ++ [(part, text)]),
    (writer.write state part text).2) = _
  rw [h]

theorem writeAll_cons_of_taken (h : writer.write state part text = (inner, none))
    (parts : List (Part × Text)) :
    writeAll writer state ((part, text) :: parts) = writeAll writer inner parts := by
  rw [writeAll, h]

theorem writeAll_cons_of_rejected {fault : WriteFault}
    (h : writer.write state part text = (inner, some fault)) (parts : List (Part × Text)) :
    writeAll writer state ((part, text) :: parts) = (inner, some (part, fault)) := by
  rw [writeAll, h]

/-- A writer does the same while what it is given is kept; it is given the parts in order, and all of
them unless it rejects one. -/
theorem writeAll_recording (writer : Writer σ) (state : σ) (calls parts : List (Part × Text)) :
    ∃ given, given <+: parts ∧
      writeAll writer.recording (state, calls) parts =
        (((writeAll writer state parts).1, calls ++ given), (writeAll writer state parts).2) ∧
      ((writeAll writer state parts).2 = none → given = parts) := by
  induction parts generalizing state calls with
  | nil => exact ⟨[], List.nil_prefix, by simp [writeAll], fun _ => rfl⟩
  | cons entry parts ih =>
    obtain ⟨part, text⟩ := entry
    rcases hwrite : writer.write state part text with ⟨inner, _ | fault⟩
    · obtain ⟨given, hprefix, heq, hall⟩ := ih inner (calls ++ [(part, text)])
      rw [writeAll_cons_of_taken hwrite, writeAll_cons_of_taken (Writer.write_recording hwrite calls)]
      refine ⟨(part, text) :: given, List.cons_prefix_cons.2 ⟨rfl, hprefix⟩, ?_, ?_⟩
      · rw [heq, List.append_assoc]
        rfl
      · intro hnone
        rw [hall hnone]
    · rw [writeAll_cons_of_rejected hwrite,
        writeAll_cons_of_rejected (Writer.write_recording hwrite calls)]
      refine ⟨[(part, text)], List.cons_prefix_cons.2 ⟨rfl, List.nil_prefix⟩, rfl, ?_⟩
      intro hnone
      cases hnone

theorem writeAll_discard (parts : List (Part × Text)) :
    writeAll Writer.discard () parts = ((), none) := by
  induction parts with
  | nil => rfl
  | cons entry parts ih => exact ih

end

/-! ## Documents -/

section

variable {settings : Settings} {context : Context} {document : Document}

/-- The merged parts of a document, with their report. -/
def preparedOf (settings : Settings) (context : Context) (document : Document) : Prepared :=
  let merged := mergeParts settings context document
  ⟨merged.map fun entry => (entry.1, entry.2.1), reportOf document merged⟩

/-- A merge that is not strict goes on to the writing. -/
theorem prepareMerge_lenient (settings : Settings) (context : Context) (document : Document) :
    prepareMerge { settings with strict := false } context document =
      .ok (preparedOf settings context document) := by
  unfold prepareMerge
  rw [mergeParts_strict]
  rfl

theorem isEmpty_mergeParts (hne : document.items ≠ []) :
    (mergeParts settings context document).isEmpty = false := by
  rw [mergeParts, List.isEmpty_map, Bool.eq_false_iff]
  exact fun h => hne (List.isEmpty_iff.1 h)

/-- A strict merge raises the first problem. -/
theorem prepareMerge_strict (settings : Settings) (context : Context) (hne : document.items ≠ []) :
    prepareMerge { settings with strict := true } context document =
      match firstProblem? (preparedOf settings context document).report with
      | some diagnostic => .error diagnostic.toFault
      | none => .ok (preparedOf settings context document) := by
  unfold prepareMerge
  rw [mergeParts_strict]
  simp only [isEmpty_mergeParts hne, Bool.not_false, Bool.and_self, if_true]
  rfl

variable {σ : Type}

/-- What a writer is given during a merge, in order. -/
def writerCalls (settings : Settings) (context : Context) (document : Document) (writer : Writer σ)
    (state : σ) : List (Part × Text) :=
  (mergeDocument settings context document writer.recording (state, [])).2.2

/-- Keeping what a writer is given does not change the merge. -/
theorem mergeDocument_recording (settings : Settings) (context : Context) (document : Document)
    (writer : Writer σ) (state : σ) :
    mergeDocument settings context document writer.recording (state, []) =
      ((mergeDocument settings context document writer state).1,
        (mergeDocument settings context document writer state).2,
        writerCalls settings context document writer state) := by
  unfold writerCalls mergeDocument
  cases prepareMerge settings context document with
  | error fault => rfl
  | ok prepared =>
    obtain ⟨given, -, hgiven, -⟩ := writeAll_recording writer state [] prepared.parts
    dsimp only
    rw [hgiven]

theorem mergeDocument_of_error {writer : Writer σ} {state : σ} {fault : Fault}
    (h : prepareMerge settings context document = .error fault) :
    mergeDocument settings context document writer state = (.error fault, state) := by
  rw [mergeDocument, h]

theorem mergeDocument_of_ok {writer : Writer σ} {state : σ} {prepared : Prepared}
    (h : prepareMerge settings context document = .ok prepared) :
    mergeDocument settings context document writer state =
      (.ok (prepared.conclude (writeAll writer state prepared.parts).2),
        (writeAll writer state prepared.parts).1) := by
  rw [mergeDocument, h]

/-- A merge that is not strict and has no writer reports what was prepared. -/
theorem mergeDocument_discard (hne : document.items ≠ []) :
    (mergeDocument { settings with strict := false } context document Writer.discard ()).1 =
      .ok { success := true, parts := (preparedOf settings context document).parts,
            report := (preparedOf settings context document).report } := by
  have hparts : (preparedOf settings context document).parts.isEmpty = false := by
    rw [preparedOf, List.isEmpty_map]
    exact isEmpty_mergeParts hne
  rw [mergeDocument_of_ok (prepareMerge_lenient settings context document), writeAll_discard,
    Prepared.conclude, hparts]
  rfl

section

variable {σ : Type} (writer : Writer σ) (state : σ)

/-- A strict merge that meets a problem raises the first and leaves the writer alone. -/
theorem mergeDocument_of_firstProblem (hne : document.items ≠ []) {diagnostic : Diagnostic}
    (h : firstProblem? (preparedOf settings context document).report = some diagnostic) :
    mergeDocument { settings with strict := true } context document writer state =
      (.error diagnostic.toFault, state) := by
  have hstrict := prepareMerge_strict settings context hne
  rw [h] at hstrict
  exact mergeDocument_of_error hstrict

/-- A strict merge that meets no problem is the merge that is not strict. -/
theorem mergeDocument_of_no_problem (hne : document.items ≠ [])
    (h : firstProblem? (preparedOf settings context document).report = none) :
    mergeDocument { settings with strict := true } context document writer state =
      mergeDocument { settings with strict := false } context document writer state := by
  have hstrict := prepareMerge_strict settings context hne
  rw [h] at hstrict
  rw [mergeDocument_of_ok hstrict,
    mergeDocument_of_ok (prepareMerge_lenient settings context document)]

end

/-- **Strict merges.** Let a document with parts be merged with a nesting limit of at least one. Its
strict merge raises something exactly if the merge that is not strict and has no writer reports a
warning or an error. It then raises the first of these, and the writer is given nothing; else the
strict merge is the one that is not strict, with the same parts given to the writer. -/
theorem mergeDocument_strict (hd : 1 ≤ settings.maxNestingDepth) (hne : document.items ≠ []) :
    refusesDocument settings document = false ∧
    ∃ result : MergeResult,
      (mergeDocument { settings with strict := false } context document Writer.discard ()).1 =
        .ok result ∧
      ∀ {σ : Type} (writer : Writer σ) (state : σ),
        let strict := { settings with strict := true }
        let lenient := { settings with strict := false }
        let outcome := mergeDocument strict context document writer state
        ((∃ fault, outcome.1 = .error fault) ↔
          ∃ diagnostic ∈ result.report.allDiagnostics,
            diagnostic.severity = .warning ∨ diagnostic.severity = .error) ∧
        (∀ fault, outcome.1 = .error fault →
          (∃ diagnostic, result.report.FirstProblem diagnostic ∧ fault = diagnostic.toFault) ∧
          outcome.2 = state ∧ writerCalls strict context document writer state = []) ∧
        ((¬ ∃ diagnostic ∈ result.report.allDiagnostics,
            diagnostic.severity = .warning ∨ diagnostic.severity = .error) →
          (∃ merged, outcome.1 = .ok merged) ∧
          outcome = mergeDocument lenient context document writer state ∧
          writerCalls strict context document writer state =
            writerCalls lenient context document writer state) := by
  refine ⟨refusesDocument_of_one_le hd document, _, mergeDocument_discard hne, ?_⟩
  intro σ writer state strict lenient outcome
  cases hfirst : firstProblem? (preparedOf settings context document).report with
  | some diagnostic =>
    have hproblem := firstProblem?_eq_some_iff.1 hfirst
    have houtcome : outcome = (.error diagnostic.toFault, state) :=
      mergeDocument_of_firstProblem writer state hne hfirst
    have hcalls : writerCalls strict context document writer state = [] := by
      rw [writerCalls, mergeDocument_of_firstProblem writer.recording (state, []) hne hfirst]
    have hreported : ∃ diagnostic ∈ (preparedOf settings context document).report.allDiagnostics,
        diagnostic.severity = .warning ∨ diagnostic.severity = .error := by
      obtain ⟨before, after, hall, -⟩ := hproblem.isFirst
      refine ⟨diagnostic, ?_, hproblem.severity⟩
      rw [hall]
      exact List.mem_append_right _ List.mem_cons_self
    rw [houtcome]
    refine ⟨⟨fun _ => hreported, fun _ => ⟨_, rfl⟩⟩, ?_, fun hnone => absurd hreported hnone⟩
    intro fault hfault
    exact ⟨⟨diagnostic, hproblem, (Except.error.inj hfault).symm⟩, rfl, hcalls⟩
  | none =>
    have hclean := firstProblem?_eq_none_iff.1 hfirst
    have houtcome : outcome = mergeDocument lenient context document writer state :=
      mergeDocument_of_no_problem writer state hne hfirst
    have hcalls : writerCalls strict context document writer state =
        writerCalls lenient context document writer state := by
      rw [writerCalls, writerCalls,
        mergeDocument_of_no_problem writer.recording (state, []) hne hfirst]
    have hok : ∃ merged, outcome.1 = .ok merged := by
      rw [houtcome, mergeDocument_of_ok (prepareMerge_lenient settings context document)]
      exact ⟨_, rfl⟩
    have hraised (fault) : outcome.1 ≠ .error fault := by
      obtain ⟨merged, hmerged⟩ := hok
      rw [hmerged]
      intro hfault
      cases hfault
    refine ⟨⟨?_, fun hproblem => absurd hproblem hclean⟩, ?_, fun _ => ⟨hok, houtcome, hcalls⟩⟩
    · rintro ⟨fault, hfault⟩
      exact absurd hfault (hraised fault)
    · intro fault hfault
      exact absurd hfault (hraised fault)

end

/-- A document with a tag without a value in its second part, and one in which a tag is put together
and nothing is wrong. -/
theorem mergeDocument_strict_parts :
    let settings : Settings := {}
    let strict : Settings := { settings with strict := true }
    let context : Context := .ofList [("A".toList, "x".toList)]
    let faulty := Document.ofParts [(.header1, "{$B}\x7b".toList), (.body, "{$A}".toList)]
    let clean := Document.ofParts [(.footer2, "{$<b></b>A}".toList), (.body, "{$A}".toList)]
    1 ≤ settings.maxNestingDepth ∧ faulty.items ≠ [] ∧ clean.items ≠ [] ∧
      (∃ fault, (mergeDocument strict context faulty Writer.discard ()).1 = .error fault) ∧
      writerCalls strict context faulty Writer.discard () = [] ∧
      mergeDocument strict context clean Writer.discard () =
        mergeDocument { settings with strict := false } context clean Writer.discard () ∧
      writerCalls strict context clean Writer.discard () =
        [(.body, ['x']), (.footer2, ['x'])] := by
  intro settings strict context faulty clean
  have hd : 1 ≤ settings.maxNestingDepth := by decide
  have hfaulty : faulty.items ≠ [] := by decide +kernel
  have hclean : clean.items ≠ [] := by decide +kernel
  have hproblem {result : MergeResult}
      (h : (mergeDocument { settings with strict := false } context faulty Writer.discard ()).1 =
        .ok result) :
      ∃ diagnostic ∈ result.report.allDiagnostics,
        diagnostic.severity = .warning ∨ diagnostic.severity = .error := by
    have hany : (match (mergeDocument { settings with strict := false } context faulty
        Writer.discard ()).1 with
      | .ok result => result.report.allDiagnostics.any fun d => d.severity = .warning
      | .error _ => false) = true := by decide +kernel
    rw [h] at hany
    obtain ⟨diagnostic, hmem, hseverity⟩ := List.any_eq_true.1 hany
    exact ⟨diagnostic, hmem, Or.inl (of_decide_eq_true hseverity)⟩
  have hnone {result : MergeResult}
      (h : (mergeDocument { settings with strict := false } context clean Writer.discard ()).1 =
        .ok result) :
      ¬ ∃ diagnostic ∈ result.report.allDiagnostics,
        diagnostic.severity = .warning ∨ diagnostic.severity = .error := by
    have hall : (match (mergeDocument { settings with strict := false } context clean
        Writer.discard ()).1 with
      | .ok result => result.report.allDiagnostics.all fun d => d.severity = .debug
      | .error _ => false) = true := by decide +kernel
    rw [h] at hall
    rintro ⟨diagnostic, hmem, hseverity⟩
    have hdebug := of_decide_eq_true (List.all_eq_true.1 hall diagnostic hmem)
    rw [hdebug] at hseverity
    exact absurd hseverity (by decide)
  obtain ⟨-, result, hresult, hraises⟩ := @mergeDocument_strict settings context _ hd hfaulty
  obtain ⟨-, other, hother, hsame⟩ := @mergeDocument_strict settings context _ hd hclean
  obtain ⟨hiff, hfirst, -⟩ := hraises Writer.discard ()
  obtain ⟨-, -, hequal⟩ := hsame Writer.discard ()
  obtain ⟨fault, hfault⟩ := hiff.2 (hproblem hresult)
  exact ⟨hd, hfaulty, hclean, ⟨fault, hfault⟩, (hfirst fault hfault).2.2, (hequal (hnone hother)).2.1,
    by decide +kernel⟩

end FormLetter
