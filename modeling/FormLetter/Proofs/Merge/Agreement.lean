import FormLetter.Proofs.Merge.Rerun
import FormLetter.Proofs.Render.Path
import FormLetter.Proofs.Template.Blocks

/-!
# Checking and merging

Checking a part and merging it read the same template. Checking lists the errors of that template
and counts all its merge tags and blocks; merging handles those on its path, and what it notices
beside the template is no error. A document whose strict merge goes through therefore is one in
which checking finds nothing wrong.

* `isError_of_mem_parse`: reading a template notices nothing but errors.
* `errors_validatePart`: the errors are the messages of the diagnostics about the template.
* `decided_le_blocks`, `handled_le_tags`: a merge handles no more than checking counts.
* `hasErrors_of_strict`: documents whose strict merge goes through.
* `mergePart_validatePart`: checking and merging agree.
-/

namespace FormLetter

/-- Whether a diagnostic is about an error of the template. -/
def Diagnostic.isTemplateError (diagnostic : Diagnostic) : Bool :=
  diagnostic.kind = .structuralError || diagnostic.kind = .modifierArgumentError

/-- How many merge tags of a part were found to have no value. -/
def PartReport.missing (report : PartReport) : Nat :=
  report.diagnostics.countP fun diagnostic => diagnostic.kind = .unresolvedVariable

/-! ## What the stages notice -/

/-- Normalizing notices tags that were put together and braces that were left alone. -/
theorem kind_of_mem_normalizeFrom {boundaries : List Text} {offset : Nat} {exhausted : Bool}
    {text : Text} {finding : Finding}
    (h : finding ∈ (normalizeFrom boundaries offset exhausted text).findings) :
    finding.kind = .tokenRepaired ∨ finding.kind = .unreconstructedToken := by
  fun_induction normalizeFrom boundaries offset exhausted text with
  | case1 => exact absurd h List.not_mem_nil
  | case2 => exact absurd h List.not_mem_nil
  | case3 _ _ _ _ _ _ ih => exact ih h
  | case4 _ _ ih =>
    rcases List.mem_cons.1 h with rfl | h
    · exact Or.inr rfl
    · exact ih h
  | case5 _ _ _ _ _ _ _ ih =>
    rw [Normal.behindSpan] at h
    split at h
    · exact ih h
    · rcases List.mem_cons.1 h with rfl | h
      · exact Or.inl rfl
      · exact ih h
  | case6 _ _ _ _ _ _ ih =>
    rcases List.mem_cons.1 h with rfl | h
    · exact Or.inr rfl
    · exact ih h
  | case7 _ _ _ _ _ _ ih => exact ih h

/-- Reading a template notices nothing but errors. -/
theorem isError_of_mem_parse {limits : Limits} {text : Text} {finding : Finding}
    (h : finding ∈ (Template.parse limits text).findings) : finding.isError = true := by
  rcases List.mem_append.1 h with h | h
  · have htag := Finding.isAboutTag_of_mem_lex h
    cases finding <;> first | rfl | cases htag
  · rw [Finding.isError, Template.kind_of_mem_blockFindings h]
    rfl

section

variable {settings : Settings}

/-! ## Errors -/

/-- The errors of a part are the messages of the diagnostics about its template. -/
theorem errors_validatePart (part : String) (markup : Text) (context : Context) :
    (validatePart settings part markup).errors =
      ((mergePart settings part markup context).2.diagnostics.filter
        Diagnostic.isTemplateError).map Diagnostic.message := by
  have hrendered : (Scope.render ⟨settings, context⟩
      (templateOf settings markup)).findings.filter Finding.isError = [] :=
    List.filter_eq_nil_iff.2 fun finding h => by
      rw [(Scope.accounts_render _ _).isError finding h]
      exact Bool.false_ne_true
  have herror : Diagnostic.isTemplateError ∘ Finding.toDiagnostic (some part) = Finding.isError :=
    rfl
  have hmessage : Diagnostic.message ∘ Finding.toDiagnostic (some part) = Finding.message := rfl
  unfold templateOf at hrendered
  unfold validatePart mergePart
  rw [List.filter_map, List.map_map, herror, hmessage, List.filter_append _ (Rendered.findings _),
    hrendered, List.append_nil]

/-! ## Counts -/

theorem tags_validatePart (part : String) (markup : Text) :
    (validatePart settings part markup).tags =
      ((Token.walk (templateOf settings markup)).filterMap Token.tag?).length := rfl

theorem blocks_validatePart (part : String) (markup : Text) :
    (validatePart settings part markup).blocks =
      (Token.walk (templateOf settings markup)).countP Token.isBlock := rfl

/-- Only rendering finds tags without a value. -/
theorem missing_mergePart (part : String) (markup : Text) (context : Context) :
    (mergePart settings part markup context).2.missing =
      (Scope.render ⟨settings, context⟩ (templateOf settings markup)).missing := by
  have hkind : (fun diagnostic : Diagnostic => decide (diagnostic.kind = .unresolvedVariable)) ∘
      Finding.toDiagnostic (some part) = fun finding => decide (finding.kind = .unresolvedVariable) :=
    rfl
  have hnormal : (normalize settings.boundaries markup).findings.countP
      (fun finding => finding.kind = .unresolvedVariable) = 0 :=
    List.countP_eq_zero.2 fun finding h => by
      rw [normalize_eq_normalizeFrom] at h
      rcases kind_of_mem_normalizeFrom h with hk | hk <;> simp [hk]
  have htemplate : (Template.parse settings.limits
      (normalize settings.boundaries markup).text).findings.countP
        (fun finding => finding.kind = .unresolvedVariable) = 0 :=
    List.countP_eq_zero.2 fun finding h hk => by
      have herror := isError_of_mem_parse h
      rw [Finding.isError, of_decide_eq_true hk] at herror
      exact Bool.false_ne_true herror
  unfold PartReport.missing mergePart
  rw [List.countP_map, hkind, List.countP_append, List.countP_append, hnormal, htemplate,
    Nat.zero_add]
  rfl

/-- A merge decides no more blocks than checking counts. -/
theorem decided_le_blocks (part : String) (markup : Text) (context : Context) :
    (mergePart settings part markup context).2.decided ≤
      (validatePart settings part markup).blocks := by
  have hpath := Scope.path_sublist_walk ⟨settings, context⟩ (templateOf settings markup)
  calc (mergePart settings part markup context).2.decided
      = (Scope.path ⟨settings, context⟩ (templateOf settings markup)).countP Token.isBlock :=
        (Scope.accounts_render _ _).blocks
    _ ≤ (validatePart settings part markup).blocks := by
        rw [blocks_validatePart]
        exact hpath.countP_le

/-- A merge comes to no more merge tags than checking counts. -/
theorem handled_le_tags (part : String) (markup : Text) (context : Context) :
    (mergePart settings part markup context).2.substituted +
        (mergePart settings part markup context).2.missing ≤
      (validatePart settings part markup).tags := by
  have hpath := Scope.path_sublist_walk ⟨settings, context⟩ (templateOf settings markup)
  rw [missing_mergePart]
  calc (mergePart settings part markup context).2.substituted +
        (Scope.render ⟨settings, context⟩ (templateOf settings markup)).missing
      = ((Scope.path ⟨settings, context⟩ (templateOf settings markup)).filterMap
          Token.tag?).length := (Scope.accounts_render _ _).tags
    _ ≤ (validatePart settings part markup).tags := by
        rw [tags_validatePart]
        exact (hpath.filterMap _).length_le

/-! ## Strict merges -/

/-- Errors of the template are problems. -/
theorem isProblem_of_isTemplateError {part : String} {markup : Text} {context : Context}
    {diagnostic : Diagnostic}
    (hm : diagnostic ∈ (mergePart settings part markup context).2.diagnostics)
    (h : diagnostic.isTemplateError = true) : diagnostic.severity.isProblem = true := by
  obtain ⟨finding, -, rfl⟩ := List.mem_map.1 hm
  cases finding <;> first | rfl | exact absurd h Bool.false_ne_true

/-- A strict merge that goes through met no problem in any part. -/
theorem isProblem_of_strict (hs : settings.strict = true) {context : Context} {document : Document}
    {prepared : Prepared} (h : prepareMerge settings context document = .ok prepared) {part : Part}
    {markup : Text} (hitem : (part, markup) ∈ document.items) {diagnostic : Diagnostic}
    (hm : diagnostic ∈ (mergePart settings part.name markup context).2.diagnostics) :
    diagnostic.severity.isProblem = false := by
  have hmerged : (part, mergePart settings part.name markup context) ∈
      mergeParts settings context document := List.mem_map_of_mem hitem
  have hne : (mergeParts settings context document).isEmpty = false := by
    cases hp : mergeParts settings context document with
    | nil => exact absurd (hp ▸ hmerged) List.not_mem_nil
    | cons => rfl
  have hall : diagnostic ∈
      (reportOf document (mergeParts settings context document)).allDiagnostics :=
    List.mem_append_right _ (List.mem_flatMap.2 ⟨_, List.mem_map_of_mem hmerged, hm⟩)
  rw [prepareMerge, hs, hne] at h
  split at h
  · cases h
  · rename_i hnone
    exact Bool.eq_false_iff.2 (List.find?_eq_none.1 hnone diagnostic hall)

/-- Checking finds nothing wrong in a document whose strict merge goes through. -/
theorem hasErrors_of_strict (hs : settings.strict = true) {context : Context} {document : Document}
    {prepared : Prepared} (h : prepareMerge settings context document = .ok prepared) :
    (validateDocument settings document).hasErrors = false := by
  rw [← Bool.not_eq_true, ValidationReport.hasErrors_iff]
  rintro ⟨validation, hv, herrors⟩
  obtain ⟨⟨part, markup⟩, hitem, rfl⟩ := List.mem_map.1 hv
  refine herrors ?_
  rw [errors_validatePart _ _ context, List.map_eq_nil_iff, List.filter_eq_nil_iff]
  intro diagnostic hm he
  have hproblem := isProblem_of_isTemplateError hm he
  rw [isProblem_of_strict hs h hitem hm] at hproblem
  exact Bool.false_ne_true hproblem

/-- **Checking and merging agree.** With a nesting limit of at least one, a part is both checked and
merged; the errors that checking lists are, in order, the messages of the diagnostics of the merge
about the template, and the merge handles no more blocks and merge tags than checking counts. If the
strict merge of a document goes through, checking finds nothing wrong in it. -/
theorem mergePart_validatePart (hd : 1 ≤ settings.maxNestingDepth) :
    (∀ (part : String) (markup : Text) (context : Context),
      let validation := validatePart settings part markup
      let report := (mergePart settings part markup context).2
      refusesPart settings markup = false ∧
        validation.errors =
          (report.diagnostics.filter Diagnostic.isTemplateError).map Diagnostic.message ∧
        report.decided ≤ validation.blocks ∧
        report.substituted + report.missing ≤ validation.tags) ∧
      ∀ {σ : Type} (context : Context) (document : Document) (writer : Writer σ) (state : σ),
        settings.strict = true →
        (mergeDocument settings context document writer state).1.isOk = true →
        (validateDocument settings document).hasErrors = false := by
  refine ⟨fun part markup context => ⟨Template.isRefused_of_one_le hd _,
    errors_validatePart part markup context, decided_le_blocks part markup context,
    handled_le_tags part markup context⟩, ?_⟩
  intro σ context document writer state hs hok
  cases hp : prepareMerge settings context document with
  | error fault =>
    rw [mergeDocument, hp] at hok
    exact absurd hok Bool.false_ne_true
  | ok prepared => exact hasErrors_of_strict hs hp

end

/-- A part with errors beside a branch that is not taken, and a document without errors, in which
the only tag without a value is on such a branch. -/
theorem mergePart_validatePart_untaken :
    let settings : Settings := { strict := true }
    let context : Context := .ofList [("A".toList, "x".toList)]
    let faulty := "{if $A}{$A|bogus}{else}{$B}{$C}{/if}{/if}{$}".toList
    let document := Document.ofParts [(.body, "{if $A}{$A}{else}{$B}{/if}".toList)]
    let report := (mergePart settings "body" faulty context).2
    1 ≤ settings.maxNestingDepth ∧ settings.strict = true ∧ document.items ≠ [] ∧
      (mergeDocument settings context document Writer.discard ()).1.isOk = true ∧
      (validateDocument settings document).hasErrors = false ∧
      (validatePart settings "body" faulty).errors =
        (report.diagnostics.filter Diagnostic.isTemplateError).map Diagnostic.message ∧
      report.diagnostics.length = 3 ∧
      report.substituted + report.missing < (validatePart settings "body" faulty).tags := by
  intro settings context faulty document report
  have hd : 1 ≤ settings.maxNestingDepth := by decide
  have hok : (mergeDocument settings context document Writer.discard ()).1.isOk = true := by
    decide +kernel
  obtain ⟨hparts, hstrict⟩ := mergePart_validatePart hd
  exact ⟨hd, rfl, by decide +kernel, hok, hstrict context document Writer.discard () rfl hok,
    (hparts "body" faulty context).2.1, by decide +kernel, by decide +kernel⟩

end FormLetter
