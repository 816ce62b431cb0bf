import FormLetter.Diagnostic.Collector
import FormLetter.Proofs.Render.Path
import FormLetter.Proofs.Text.Distinct

/-!
# What renderings add up to

A rendering counts what is on its path, and lists an identifier without a value when it comes to it
for the first time. Tokens behind one another are rendered as each of them on its own, and counts
and lists add up.

* `Rendered.collected`: a collector that took what a rendering noticed.
* `Scope.render_append`: tokens behind one another.
* `Scope.listsMissed_render`: the identifiers without a value are those that were noticed, each once.
* `Scope.render_counts`: counts, list and diagnostics of a rendering.
-/

namespace FormLetter

/-! ## Diagnostics -/

/-- The identifier that a diagnostic names. -/
def Diagnostic.identifier? (diagnostic : Diagnostic) : Option Text :=
  match diagnostic.details.lookup "identifier" with
  | some (.text identifier) => some identifier
  | _ => none

/-- The identifier that was found to have no value. -/
def Finding.identifier? : Finding → Option Text
  | .unresolved identifier _ => some identifier
  | _ => none

namespace Rendered

/-- A collector for a part that took what a rendering noticed. -/
def collected (part : Option String) (rendered : Rendered) : Collector :=
  (rendered.findings.map (Finding.toDiagnostic none)).foldl
    (fun collector diagnostic => collector.record diagnostic) { part := part }

/-- The identifiers that were found to have no value, as often as that was noticed. -/
def missed (rendered : Rendered) : List Text := rendered.findings.filterMap Finding.identifier?

theorem diagnostics_collected (part : Option String) (rendered : Rendered) :
    (rendered.collected part).diagnostics = rendered.findings.map (Finding.toDiagnostic part) := by
  have hfold (collector : Collector) (diagnostics : List Diagnostic) :
      (diagnostics.foldl (fun collector diagnostic => collector.record diagnostic)
        collector).diagnostics =
        collector.diagnostics ++ diagnostics.map (Diagnostic.inPart collector.part) := by
    induction diagnostics generalizing collector with
    | nil => exact (List.append_nil _).symm
    | cons diagnostic diagnostics ih =>
      rw [List.foldl_cons, ih, Collector.diagnostics_record, List.append_assoc]
      rfl
  rw [collected, hfold, List.map_map]
  rfl

theorem count_collected (part : Option String) (rendered : Rendered) :
    (rendered.collected part).count .unresolvedVariable = rendered.missing := by
  rw [Collector.count, Collector.ofKind, diagnostics_collected, ← List.countP_eq_length_filter,
    List.countP_map]
  rfl

theorem identifiers_collected (part : Option String) (rendered : Rendered) :
    ((rendered.collected part).ofKind .unresolvedVariable).filterMap Diagnostic.identifier? =
      rendered.missed := by
  rw [Collector.ofKind, diagnostics_collected, List.filterMap_filter, List.filterMap_map]
  refine List.filterMap_congr fun finding _ => ?_
  cases finding <;> rfl

/-! ## Results behind one another -/

theorem append_assoc (front middle back : Rendered) :
    front ++ middle ++ back = front ++ (middle ++ back) := by
  -- What is new behind both is new behind the second and behind the first.
  have hnew (identifier : Text) :
      (!(front.unresolved ++ middle.unresolved.filter
          fun identifier => !front.unresolved.contains identifier).contains identifier) =
        (!front.unresolved.contains identifier && !middle.unresolved.contains identifier) := by
    by_cases h : identifier ∈ front.unresolved <;> simp [h]
  show append (append front middle) back = append front (append middle back)
  simp only [append, hnew, List.append_assoc, Nat.add_assoc, List.filter_append,
    List.filter_filter]

theorem missed_append (front back : Rendered) :
    (front ++ back).missed = front.missed ++ back.missed :=
  List.filterMap_append

/-- A result lists the identifiers that were found to have no value, each once and in the order in
which that was noticed first. -/
def ListsMissed (rendered : Rendered) : Prop := rendered.unresolved = rendered.missed.eraseDups

theorem ListsMissed.eraseDups_unresolved {rendered : Rendered} (h : rendered.ListsMissed) :
    rendered.unresolved.eraseDups = rendered.unresolved := by
  rw [h, eraseDups_eraseDups]

theorem unresolved_append (front back : Rendered) :
    (front ++ back).unresolved = front.unresolved ++
      back.unresolved.filter fun identifier => !front.unresolved.contains identifier := rfl

theorem ListsMissed.append {front back : Rendered} (hf : front.ListsMissed)
    (hb : back.ListsMissed) : (front ++ back).ListsMissed := by
  rw [ListsMissed] at hf hb ⊢
  rw [unresolved_append, hf, hb, missed_append, eraseDups_append_filter]

theorem ListsMissed.unresolved_append {front back : Rendered} (hf : front.ListsMissed)
    (hb : back.ListsMissed) :
    (front ++ back).unresolved = (front.unresolved ++ back.unresolved).eraseDups := by
  rw [Rendered.unresolved_append, ← eraseDups_append_filter, hf.eraseDups_unresolved,
    hb.eraseDups_unresolved]

/-- What only evaluates a condition finds no identifier without a value. -/
theorem listsMissed_of_evaluate (valueOf : Text → Text) (condition : Condition) :
    ({ findings := (condition.evaluate valueOf).2 } : Rendered).ListsMissed := by
  have hnone : (condition.evaluate valueOf).2.filterMap Finding.identifier? = [] := by
    refine List.filterMap_eq_nil_iff.2 fun finding h => ?_
    have hkind := Condition.kind_of_mem_evaluate h
    cases finding with
    | unresolved => cases hkind
    | _ => rfl
  rw [ListsMissed, missed, hnone]
  rfl

end Rendered

namespace Scope

/-- Tokens behind one another are rendered as each of them on its own. -/
theorem render_append (scope : Scope) (front back : List Token) :
    scope.render (front ++ back) = scope.render front ++ scope.render back := by
  induction front with
  | nil => rw [List.nil_append, render, Rendered.empty_append]
  | cons token front ih => rw [List.cons_append, render, render, ih, Rendered.append_assoc]

/-! ## Identifiers without a value -/

theorem listsMissed_tag (scope : Scope) (mergeTag : MergeTag) :
    (scope.tag mergeTag).ListsMissed := by
  unfold Scope.tag
  split <;> rfl

mutual

theorem listsMissed_renderToken (scope : Scope) :
    (token : Token) → (scope.renderToken token).ListsMissed
  | .literal source => by
    rw [renderToken]
    rfl
  | .tag mergeTag => by
    rw [renderToken]
    exact listsMissed_tag scope mergeTag
  | .block kind branches close => by
    have hblock : ({ decided := 1 } : Rendered).ListsMissed := rfl
    rw [renderToken]
    exact hblock.append (listsMissed_renderBranches scope kind branches)

theorem listsMissed_render (scope : Scope) :
    (tokens : List Token) → (scope.render tokens).ListsMissed
  | [] => by
    rw [render]
    rfl
  | token :: tokens => by
    rw [render]
    exact (listsMissed_renderToken scope token).append (listsMissed_render scope tokens)

theorem listsMissed_renderBranches (scope : Scope) (kind : BlockKind) :
    (branches : List Branch) → (scope.renderBranches kind branches).ListsMissed
  | [] => by
    rw [renderBranches]
    rfl
  | .mk none _ content :: _ => by
    rw [renderBranches]
    exact listsMissed_render scope content
  | .mk (some condition) _ content :: branches => by
    have hcondition := Rendered.listsMissed_of_evaluate scope.valueOf condition
    rw [renderBranches]
    generalize condition.evaluate scope.valueOf = outcome at hcondition ⊢
    rcases outcome with ⟨holds, findings⟩
    cases holds with
    | true => exact hcondition.append (listsMissed_render scope content)
    | false =>
      simp only
      split
      · exact hcondition
      · exact hcondition.append (listsMissed_renderBranches scope kind branches)

end

/-- **Counts add up.** On the path of a rendering each merge tag was either replaced by a value or
noticed to have none, and each block was decided; the identifiers without a value are those that
were noticed, each once, in the order in which they were noticed first. Tokens behind one another
give the text, the counts, the diagnostics and the identifiers of both. -/
theorem render_counts (scope : Scope) (part : Option String) (tokens others : List Token) :
    let front := scope.render tokens
    let back := scope.render others
    let both := scope.render (tokens ++ others)
    (front.substituted + (front.collected part).count .unresolvedVariable =
        ((scope.path tokens).filterMap Token.tag?).length ∧
      front.decided = (scope.path tokens).countP Token.isBlock ∧
      front.unresolved = (((front.collected part).ofKind .unresolvedVariable).filterMap
        Diagnostic.identifier?).eraseDups) ∧
    both.text = front.text ++ back.text ∧
    (both.collected part).diagnostics =
      (front.collected part).diagnostics ++ (back.collected part).diagnostics ∧
    both.substituted = front.substituted + back.substituted ∧
    both.decided = front.decided + back.decided ∧
    both.unresolved = (front.unresolved ++ back.unresolved).eraseDups := by
  intro front back both
  have hfront := accounts_render scope tokens
  have hboth : both = front ++ back := render_append scope tokens others
  refine ⟨⟨?_, hfront.blocks, ?_⟩, ?_⟩
  · rw [Rendered.count_collected]
    exact hfront.tags
  · rw [Rendered.identifiers_collected]
    exact listsMissed_render scope tokens
  · rw [hboth, Rendered.diagnostics_collected, Rendered.diagnostics_collected,
      Rendered.diagnostics_collected]
    exact ⟨rfl, List.map_append, rfl, rfl,
      (listsMissed_render scope tokens).unresolved_append (listsMissed_render scope others)⟩

end Scope

end FormLetter
