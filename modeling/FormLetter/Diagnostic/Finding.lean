import FormLetter.Diagnostic.Basic
import FormLetter.Modifier.Parser

/-!
# Findings

What the stages of a merge notice about a template, by cause. The wording and the data of the
diagnostic for each cause are here and nowhere else.

* `Finding`: the causes.
* `Finding.kind`, `Finding.message`, `Finding.details`.
* `Finding.toDiagnostic`.
-/

namespace FormLetter

/-- Why a brace could not be completed to a tag. -/
inductive Abandonment where
  /-- The text ends before the closing brace. -/
  | noClosingBrace
  /-- A markup tag before the closing brace never ends. -/
  | unterminatedMarkup
  /-- An element that a tag must not cross stands before the closing brace. -/
  | hardBoundary (name : Text)
  /-- The markup inside the braces does not close what it opens. -/
  | unbalancedMarkup
  deriving Repr, DecidableEq

/-- The wording of a reason. -/
def Abandonment.message : Abandonment → String
  | .noClosingBrace => "no closing brace"
  | .unterminatedMarkup => "unterminated markup"
  | .hardBoundary name => s!"hard boundary <{String.ofList name}>"
  | .unbalancedMarkup => "unbalanced inline markup"

/-- Something noticed about a template. -/
inductive Finding where
  /-- A tag was put together from `nodes` markup tags and the text between them. -/
  | repaired (offset : Nat) (token : Text) (nodes : Nat)
  /-- A brace was left as it is. -/
  | abandoned (offset : Nat) (reason : Abandonment)
  /-- A tag has no well-formed identifier. -/
  | malformedTag (source : Text)
  /-- A tag is opened and not closed. -/
  | unterminatedTag (source : Text) (offset : Nat)
  /-- A modifier was left out of the chain of a tag. -/
  | skippedModifier (segment source : Text) (fault : Modifier.ParseFault)
  /-- A block marker lies beyond the step limit. -/
  | stepLimit (limit : Int) (marker : Text)
  /-- A block opens beyond the nesting limit. -/
  | tooDeep (limit : Int) (marker : Text)
  /-- An `else` or `elseif` stands outside any block. -/
  | strayBranch (marker : Text)
  /-- An `else` or `elseif` follows the `else` of its block. -/
  | branchAfterElse (marker : Text)
  /-- A closing marker has no opening one. -/
  | unmatchedClose (marker : Text)
  /-- A block is still open where a block of the other kind around it closes. -/
  | unclosedInside (marker closer : Text)
  /-- A block is still open at the end. -/
  | unclosed (marker : Text)
  /-- No key matches the identifier of a tag. -/
  | unresolved (identifier source : Text)
  /-- A condition that is no test was evaluated. -/
  | invalidCondition (text : Text)
  deriving Repr, DecidableEq

namespace Finding

/-- What a finding is about. -/
def kind : Finding → Diagnostic.Kind
  | repaired .. => .tokenRepaired
  | abandoned .. => .unreconstructedToken
  | malformedTag .. | unterminatedTag .. => .structuralError
  | skippedModifier .. => .modifierArgumentError
  | stepLimit .. | tooDeep .. | strayBranch .. | branchAfterElse .. | unmatchedClose ..
  | unclosedInside .. | unclosed .. => .structuralError
  | unresolved .. => .unresolvedVariable
  | invalidCondition .. => .invalidCondition

/-- The wording of a finding. -/
def message : Finding → String
  | repaired _ token nodes => s!"Rebuilt {String.ofList token} from {nodes} markup node(s)"
  | abandoned offset reason => s!"Left '\x7b' literal at offset {offset}: {reason.message}"
  | malformedTag source => s!"Malformed merge tag {String.ofList source} left as text"
  | unterminatedTag source _ => s!"Unterminated merge tag {String.ofList source} left as text"
  | skippedModifier segment source fault =>
    s!"Skipped modifier '{String.ofList segment}' in {String.ofList source}: {fault.message}"
  | stepLimit limit _ =>
    s!"Parse step limit ({limit}) reached; remaining block markers left as text"
  | tooDeep limit marker =>
    s!"Nesting deeper than {limit} at {String.ofList marker}; left as text"
  | strayBranch marker => s!"Stray {String.ofList marker} outside any if block"
  | branchAfterElse marker => s!"{String.ofList marker} after \x7belse\x7d left as text"
  | unmatchedClose marker => s!"Unmatched {String.ofList marker} left as text"
  | unclosedInside marker closer =>
    s!"Unclosed {String.ofList marker} inside {String.ofList closer} left as text"
  | unclosed marker => s!"Unclosed {String.ofList marker} left as text"
  | unresolved _ source => s!"No value for {String.ofList source}; substituted empty text"
  | invalidCondition text => s!"Unrecognised condition '{String.ofList text}' evaluates to false"

/-- The data of a finding. -/
def details : Finding → List (String × Value)
  | repaired offset token _ => [("offset", .int offset), ("token", .text token)]
  | abandoned offset reason => [("offset", .int offset), ("reason", .text reason.message.toList)]
  | malformedTag source => [("token", .text source)]
  | unterminatedTag source offset => [("token", .text source), ("offset", .int offset)]
  | skippedModifier segment source _ => [("token", .text source), ("modifier", .text segment)]
  | stepLimit _ marker | tooDeep _ marker | strayBranch marker | branchAfterElse marker
  | unmatchedClose marker | unclosedInside marker _ | unclosed marker => [("marker", .text marker)]
  | unresolved identifier _ => [("identifier", .text identifier)]
  | invalidCondition text => [("condition", .text text)]

/-- The diagnostic for a finding in a part. -/
def toDiagnostic (part : Option String) (finding : Finding) : Diagnostic where
  kind := finding.kind
  message := finding.message
  part := part
  details := finding.details

end Finding

end FormLetter
