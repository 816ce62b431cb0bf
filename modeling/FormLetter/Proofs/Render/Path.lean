import FormLetter.Proofs.Render.Skeleton
import FormLetter.Proofs.Template.Opening
import FormLetter.Validation

/-!
# What rendering counts and notices

Rendering counts each merge tag on its path once, as substituted or as left without a value, and
each block on it once, as decided. It notices nothing that is an error of the template. The path
leads through some of the tokens of the template only, so the counts are bounded by those of a walk
through all of them.

* `Rendered.Accounts`: a result accounts for the tokens that were rendered for it.
* `Scope.accounts_render`: the result of a rendering accounts for the tokens on its path.
* `Scope.path_sublist_walk`: the path is part of the walk.
-/

namespace FormLetter

/-- Whether a token is a block. -/
def Token.isBlock : Token → Bool
  | .block .. => true
  | _ => false

/-! ## Findings of conditions -/

theorem Atom.kind_of_mem_findings {atom : Atom} {finding : Finding} (h : finding ∈ atom.findings) :
    finding.kind = .invalidCondition := by
  cases atom with
  | invalid text =>
    rw [List.mem_singleton.1 h]
    rfl
  | _ => exact absurd h List.not_mem_nil

namespace Condition

theorem kind_of_mem_evaluateOperands {valueOf : Text → Text} {operands : List Condition}
    {finding : Finding} (h : finding ∈ (evaluateOperands valueOf operands).2) :
    finding.kind = .invalidCondition := by
  induction operands with
  | nil => exact absurd h List.not_mem_nil
  | cons operand operands ih =>
    cases operand with
    | all => exact absurd h List.not_mem_nil
    | test atom =>
      rw [evaluateOperands, evaluateOperand] at h
      cases hholds : atom.holds valueOf with
      | false =>
        rw [hholds] at h
        exact Atom.kind_of_mem_findings h
      | true =>
        rw [hholds] at h
        rcases List.mem_append.1 h with h | h
        · exact Atom.kind_of_mem_findings h
        · exact ih h

/-- Evaluating a condition notices only text that is no test. -/
theorem kind_of_mem_evaluate {valueOf : Text → Text} {condition : Condition} {finding : Finding}
    (h : finding ∈ (condition.evaluate valueOf).2) : finding.kind = .invalidCondition := by
  cases condition with
  | test atom => exact Atom.kind_of_mem_findings h
  | all operands => exact kind_of_mem_evaluateOperands h

end Condition

/-! ## Accounts -/

namespace Rendered

/-- The number of tags that were left without a value. -/
def missing (rendered : Rendered) : Nat :=
  rendered.findings.countP fun finding => finding.kind = .unresolvedVariable

/-- A result accounts for the tokens that were rendered for it. -/
structure Accounts (rendered : Rendered) (tokens : List Token) : Prop where
  /-- Each merge tag was replaced by a value or found to have none. -/
  tags : rendered.substituted + rendered.missing = (tokens.filterMap Token.tag?).length
  /-- Each block was decided. -/
  blocks : rendered.decided = tokens.countP Token.isBlock
  /-- Nothing that was noticed is an error of the template. -/
  isError : ∀ finding ∈ rendered.findings, finding.isError = false

theorem missing_append (front back : Rendered) :
    (front ++ back).missing = front.missing + back.missing :=
  List.countP_append

namespace Accounts

theorem empty : Rendered.empty.Accounts [] := ⟨rfl, rfl, fun _ h => absurd h List.not_mem_nil⟩

theorem append {front back : Rendered} {first second : List Token} (hf : front.Accounts first)
    (hb : back.Accounts second) : (front ++ back).Accounts (first ++ second) := by
  have hsubstituted : (front ++ back).substituted = front.substituted + back.substituted := rfl
  have hdecided : (front ++ back).decided = front.decided + back.decided := rfl
  refine ⟨?_, ?_, fun finding h => ?_⟩
  · rw [hsubstituted, missing_append, List.filterMap_append, List.length_append, ← hf.tags,
      ← hb.tags]
    omega
  · rw [hdecided, List.countP_append, hf.blocks, hb.blocks]
  · exact (List.mem_append.1 h).elim (hf.isError finding) (hb.isError finding)

theorem of_evaluate (valueOf : Text → Text) (condition : Condition) :
    ({ findings := (condition.evaluate valueOf).2 } : Rendered).Accounts [] := by
  have hkind (finding) (h : finding ∈ (condition.evaluate valueOf).2) :=
    Condition.kind_of_mem_evaluate h
  refine ⟨?_, rfl, fun finding h => by simp [Finding.isError, hkind finding h]⟩
  have hmissing :
      (condition.evaluate valueOf).2.countP (fun finding => finding.kind = .unresolvedVariable) =
        0 :=
    List.countP_eq_zero.2 fun finding h => by simp [hkind finding h]
  rw [missing, hmissing]
  rfl

end Accounts

end Rendered

namespace Scope

theorem accounts_tag (scope : Scope) (mergeTag : MergeTag) :
    (scope.tag mergeTag).Accounts [.tag mergeTag] := by
  unfold Scope.tag
  split
  · exact ⟨rfl, rfl, fun finding h => by rw [List.mem_singleton.1 h]; rfl⟩
  · exact ⟨rfl, rfl, fun _ h => absurd h List.not_mem_nil⟩

mutual

theorem accounts_renderToken (scope : Scope) :
    (token : Token) → (scope.renderToken token).Accounts (scope.pathToken token)
  | .literal source => by
    simp only [renderToken, pathToken]
    exact ⟨rfl, rfl, fun _ h => absurd h List.not_mem_nil⟩
  | .tag mergeTag => by
    simp only [renderToken, pathToken]
    exact accounts_tag scope mergeTag
  | .block kind branches close => by
    have hblock : ({ decided := 1 } : Rendered).Accounts [.block kind branches close] :=
      ⟨rfl, rfl, fun _ h => absurd h List.not_mem_nil⟩
    rw [renderToken, pathToken]
    exact hblock.append (accounts_renderBranches scope kind branches)

/-- The result of a rendering accounts for the tokens on its path. -/
theorem accounts_render (scope : Scope) :
    (tokens : List Token) → (scope.render tokens).Accounts (scope.path tokens)
  | [] => by
    rw [render, path]
    exact .empty
  | token :: tokens => by
    rw [render, path]
    exact (accounts_renderToken scope token).append (accounts_render scope tokens)

theorem accounts_renderBranches (scope : Scope) (kind : BlockKind) :
    (branches : List Branch) →
      (scope.renderBranches kind branches).Accounts (scope.pathBranches kind branches)
  | [] => by
    rw [renderBranches, pathBranches]
    exact .empty
  | .mk none _ content :: _ => by
    rw [renderBranches, pathBranches]
    exact accounts_render scope content
  | .mk (some condition) _ content :: branches => by
    have hcondition := Rendered.Accounts.of_evaluate scope.valueOf condition
    rw [renderBranches, pathBranches, holds]
    generalize condition.evaluate scope.valueOf = outcome at hcondition ⊢
    rcases outcome with ⟨holds, findings⟩
    cases holds with
    | true => exact hcondition.append (accounts_render scope content)
    | false =>
      by_cases hk : kind = .listIf
      · simpa only [hk, Bool.false_eq_true, ↓reduceIte] using hcondition
      · simp only [hk, Bool.false_eq_true, ↓reduceIte]
        exact hcondition.append (accounts_renderBranches scope kind branches)

end

mutual

theorem pathToken_sublist_walkOne (scope : Scope) :
    (token : Token) → (scope.pathToken token).Sublist token.walkOne
  | .literal source => by simp [pathToken, Token.walkOne]
  | .tag mergeTag => by simp [pathToken, Token.walkOne]
  | .block kind branches close => by
    rw [pathToken, Token.walkOne]
    exact (pathBranches_sublist_walk scope kind branches).cons_cons _

/-- The path is part of the walk through all branches, in the same order. -/
theorem path_sublist_walk (scope : Scope) :
    (tokens : List Token) → (scope.path tokens).Sublist (Token.walk tokens)
  | [] => by
    rw [path]
    exact List.nil_sublist _
  | token :: tokens => by
    rw [path, Token.walk]
    exact (pathToken_sublist_walkOne scope token).append (path_sublist_walk scope tokens)

theorem pathBranches_sublist_walk (scope : Scope) (kind : BlockKind) :
    (branches : List Branch) →
      (scope.pathBranches kind branches).Sublist (Branch.walk branches)
  | [] => by
    rw [pathBranches]
    exact List.nil_sublist _
  | .mk none _ content :: branches => by
    rw [pathBranches, Branch.walk, Branch.walkOne]
    exact (path_sublist_walk scope content).trans (List.sublist_append_left _ _)
  | .mk (some condition) _ content :: branches => by
    rw [pathBranches, Branch.walk, Branch.walkOne]
    split
    · exact (path_sublist_walk scope content).trans (List.sublist_append_left _ _)
    · split
      · exact List.nil_sublist _
      · exact (pathBranches_sublist_walk scope kind branches).trans
          (List.sublist_append_right _ _)

end

end Scope

end FormLetter
