import FormLetter.Log.Basic
import FormLetter.Render

/-!
# The log of a rendering

While a template is rendered, identifiers are looked up and findings are made. A log tells of a
look-up that matched in part, and of every finding.

* `RenderStep`: a look-up or a finding.
* `Condition.steps`, `Scope.steps`: the steps of an evaluation and of a rendering, in order.
* `Scope.logLookup`: the line for a look-up.

Main statements: `findings_evaluate` and `findings_render` (the findings among the steps are those
of the rendering).
-/

namespace FormLetter

/-- Something that happens while a template is rendered. -/
inductive RenderStep where
  /-- An identifier is looked up. -/
  | lookedUp (identifier : Text)
  /-- Something is noticed. -/
  | noticed (finding : Finding)
  deriving Repr, DecidableEq

/-- The finding of a step. -/
def RenderStep.finding? : RenderStep → Option Finding
  | lookedUp _ => none
  | noticed finding => some finding

/-! ## Conditions -/

/-- The steps of a test. -/
def Atom.steps (atom : Atom) : List RenderStep :=
  atom.identifier?.toList.map .lookedUp ++ atom.findings.map .noticed

/-- The steps of the operands of a conjunction, up to the first that does not hold. -/
def Condition.operandSteps (valueOf : Text → Text) : List Condition → List RenderStep
  | [] => []
  | .all _ :: _ => []
  | .test atom :: operands =>
    atom.steps ++ if atom.holds valueOf then operandSteps valueOf operands else []

/-- The steps of a condition. -/
def Condition.steps (valueOf : Text → Text) : Condition → List RenderStep
  | .test atom => atom.steps
  | .all operands => operandSteps valueOf operands

theorem Atom.findings_steps (atom : Atom) :
    atom.steps.filterMap RenderStep.finding? = atom.findings := by
  cases atom <;> rfl

theorem Condition.findings_operandSteps (valueOf : Text → Text) (operands : List Condition) :
    (operandSteps valueOf operands).filterMap RenderStep.finding? =
      (evaluateOperands valueOf operands).2 := by
  induction operands with
  | nil => rfl
  | cons operand operands ih =>
    cases operand with
    | all => rfl
    | test atom =>
      cases h : atom.holds valueOf <;>
        simp [operandSteps, evaluateOperands, evaluateOperand, h, Atom.findings_steps, ih]

theorem Condition.findings_evaluate (valueOf : Text → Text) (condition : Condition) :
    (condition.steps valueOf).filterMap RenderStep.finding? = (condition.evaluate valueOf).2 := by
  cases condition with
  | test atom => exact Atom.findings_steps atom
  | all operands => exact findings_operandSteps valueOf operands

/-! ## Tokens -/

namespace Scope

mutual

/-- The steps of rendering a token. -/
def tokenSteps (scope : Scope) : Token → List RenderStep
  | .literal _ => []
  | .tag mergeTag => .lookedUp mergeTag.identifier :: (scope.tag mergeTag).findings.map .noticed
  | .block kind branches _ => scope.branchSteps kind branches

/-- The steps of rendering tokens one behind the other. -/
def steps (scope : Scope) : List Token → List RenderStep
  | [] => []
  | token :: tokens => scope.tokenSteps token ++ scope.steps tokens

/-- The steps of choosing and rendering a branch. -/
def branchSteps (scope : Scope) (kind : BlockKind) : List Branch → List RenderStep
  | [] => []
  | .mk none _ content :: _ => scope.steps content
  | .mk (some condition) _ content :: branches =>
    condition.steps scope.valueOf ++
      if (condition.evaluate scope.valueOf).1 then scope.steps content
      else if kind = .listIf then [] else scope.branchSteps kind branches

end

theorem findings_append (front back : Rendered) :
    (front ++ back).findings = front.findings ++ back.findings := rfl

mutual

theorem findings_tokenSteps (scope : Scope) (token : Token) :
    (scope.tokenSteps token).filterMap RenderStep.finding? =
      (scope.renderToken token).findings := by
  cases token with
  | literal source => simp [tokenSteps, renderToken]
  | tag mergeTag =>
    simp [tokenSteps, renderToken, List.filterMap_cons, List.filterMap_map, RenderStep.finding?,
      Function.comp_def]
  | block kind branches close =>
    simp [tokenSteps, renderToken, findings_append, findings_branchSteps scope kind branches]

theorem findings_render (scope : Scope) (tokens : List Token) :
    (scope.steps tokens).filterMap RenderStep.finding? = (scope.render tokens).findings := by
  cases tokens with
  | nil => rfl
  | cons token tokens =>
    simp [steps, render, findings_append, findings_tokenSteps scope token,
      findings_render scope tokens]

theorem findings_branchSteps (scope : Scope) (kind : BlockKind) (branches : List Branch) :
    (scope.branchSteps kind branches).filterMap RenderStep.finding? =
      (scope.renderBranches kind branches).findings := by
  cases branches with
  | nil => rfl
  | cons branch branches =>
    obtain ⟨condition, marker, content⟩ := branch
    cases condition with
    | none => simp [branchSteps, renderBranches, findings_render scope content]
    | some condition =>
      simp only [branchSteps, renderBranches, List.filterMap_append, Condition.findings_evaluate]
      rcases h : condition.evaluate scope.valueOf with ⟨holds, findings⟩
      cases holds
      · by_cases hk : kind = .listIf <;>
          simp [hk, findings_append, findings_branchSteps scope _ branches]
      · simp [findings_append, findings_render scope content]

end

/-- The line for a look-up; only one that matched in part has one. -/
def logLookup (scope : Scope) (identifier : Text) : List LogEntry :=
  match scope.context.lookup scope.settings.allowPartialMatch identifier,
    scope.context.inPart? identifier with
  | (_, .fragment), some (key, _) =>
    [⟨.debug, .lookup,
      s!"Partial match for '{String.ofList identifier}' on key '{String.ofList key}'"⟩]
  | _, _ => []

end Scope

end FormLetter
