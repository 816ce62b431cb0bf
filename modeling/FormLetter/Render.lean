import FormLetter.Condition.Evaluation
import FormLetter.Context.Lookup
import FormLetter.Escape
import FormLetter.Modifier.Application
import FormLetter.Settings.Basic

/-!
# Rendering templates

Rendering copies the literals of a template, replaces its tags by values and keeps at most one
branch of each block: the first whose condition holds, or the one without a condition.

* `Rendered`: rendered text with counts and findings; `Rendered.append` puts two behind one another.
* `Scope`: the settings and the context of a rendering.
* `Scope.tag`, `Scope.render`: a tag and a list of tokens rendered.

Main statements: `append_empty` and `empty_append`.
-/

namespace FormLetter

/-! ## Results -/

/-- Rendered text and what was done for it. -/
structure Rendered where
  /-- The text. -/
  text : Text := []
  /-- The number of tags that were replaced by a value. -/
  substituted : Nat := 0
  /-- The number of blocks that were decided. -/
  decided : Nat := 0
  /-- The identifiers without a value, each once, in order of first appearance. -/
  unresolved : List Text := []
  /-- What was noticed, in order. -/
  findings : List Finding := []
  deriving Repr, DecidableEq

namespace Rendered

/-- Nothing. -/
def empty : Rendered := {}

/-- One result behind another. -/
def append (front back : Rendered) : Rendered where
  text := front.text ++ back.text
  substituted := front.substituted + back.substituted
  decided := front.decided + back.decided
  unresolved := front.unresolved ++
    back.unresolved.filter fun identifier => !front.unresolved.contains identifier
  findings := front.findings ++ back.findings

instance : Append Rendered := ⟨append⟩

theorem append_empty (rendered : Rendered) : rendered ++ empty = rendered := by
  show append rendered empty = rendered
  simp [append, empty]

theorem empty_append (rendered : Rendered) : empty ++ rendered = rendered := by
  show append empty rendered = rendered
  have h : rendered.unresolved.filter (fun _ => true) = rendered.unresolved :=
    List.filter_eq_self.2 fun _ _ => rfl
  simp [append, empty, h]

end Rendered

/-! ## Rendering -/

/-- What a template is rendered with. -/
structure Scope where
  /-- The settings. -/
  settings : Settings
  /-- The values. -/
  context : Context

namespace Scope

/-- The value of an identifier, if it has one. -/
def value? (scope : Scope) (identifier : Text) : Option Text :=
  scope.context.resolve scope.settings.allowPartialMatch identifier

/-- The value of an identifier for a condition. -/
def valueOf (scope : Scope) (identifier : Text) : Text := (scope.value? identifier).getD []

/-- A tag rendered. Modifiers are applied to a value that is not empty, and the result is escaped.
-/
def tag (scope : Scope) (tag : MergeTag) : Rendered :=
  match scope.value? tag.identifier with
  | none =>
    { unresolved := [tag.identifier], findings := [.unresolved tag.identifier tag.source] }
  | some value =>
    let value :=
      if value = [] then value else applyChain scope.settings.dayFirst tag.modifiers value
    { text := escapeValue scope.settings.escapeBraces value, substituted := 1 }

mutual

/-- A token rendered. -/
def renderToken (scope : Scope) : Token → Rendered
  | .literal source => { text := source }
  | .tag mergeTag => scope.tag mergeTag
  | .block kind branches _ => { decided := 1 } ++ scope.renderBranches kind branches

/-- Tokens rendered one behind the other. -/
def render (scope : Scope) : List Token → Rendered
  | [] => .empty
  | token :: tokens => scope.renderToken token ++ scope.render tokens

/-- The first branch whose condition holds, or that has none, rendered. A block that is kept or left
out has only one branch to try. -/
def renderBranches (scope : Scope) (kind : BlockKind) : List Branch → Rendered
  | [] => .empty
  | .mk none _ content :: _ => scope.render content
  | .mk (some condition) _ content :: branches =>
    match condition.evaluate scope.valueOf with
    | (true, findings) => { findings } ++ scope.render content
    | (false, findings) =>
      if kind = .listIf then { findings }
      else { findings } ++ scope.renderBranches kind branches

end

end Scope

end FormLetter
