import FormLetter.Diagnostic.Fault

/-!
# Diagnostics

A diagnostic records something that happened while a document was merged or checked.

* `Severity`, `Diagnostic.Kind`, `Diagnostic`.
* `Diagnostic.inPart`: the diagnostic attributed to a part, unless it has one already.
* `Diagnostic.toFault`: the fault that strict mode raises for it.
* `Diagnostic.record`: a diagnostic as data.
-/

namespace FormLetter

/-- How grave a diagnostic is. -/
inductive Severity where
  | debug
  | info
  | warning
  | error
  deriving Repr, DecidableEq

/-- Every severity, in rising order. -/
def Severity.all : List Severity := [.debug, .info, .warning, .error]

/-- The name of a severity. -/
def Severity.name : Severity → String
  | .debug => "debug"
  | .info => "info"
  | .warning => "warning"
  | .error => "error"

/-- The rank of a severity in rising order. -/
def Severity.rank : Severity → Nat
  | .debug => 0
  | .info => 1
  | .warning => 2
  | .error => 3

/-- Whether a severity calls for attention: a warning or an error. -/
def Severity.isProblem (severity : Severity) : Bool := Severity.warning.rank ≤ severity.rank

/-- What a diagnostic is about. -/
inductive Diagnostic.Kind where
  /-- A known part is absent from the document. -/
  | partMissing
  /-- A tag that markup had split was put together. -/
  | tokenRepaired
  /-- A brace could not be completed to a tag. -/
  | unreconstructedToken
  /-- No key matches the identifier of a tag. -/
  | unresolvedVariable
  /-- A tag or a block marker is not well formed. -/
  | structuralError
  /-- A modifier was left out of a chain. -/
  | modifierArgumentError
  /-- A condition could not be read. -/
  | invalidCondition
  /-- The document has no parts. -/
  | noPartsProcessed
  /-- A merged part could not be written. -/
  | partWriteFailure
  deriving Repr, DecidableEq

namespace Diagnostic.Kind

/-- Every kind, in order. -/
def all : List Kind :=
  [partMissing, tokenRepaired, unreconstructedToken, unresolvedVariable, structuralError,
    modifierArgumentError, invalidCondition, noPartsProcessed, partWriteFailure]

/-- The name of a kind. -/
def name : Kind → String
  | partMissing => "part_missing"
  | tokenRepaired => "token_repaired"
  | unreconstructedToken => "unreconstructed_token"
  | unresolvedVariable => "unresolved_variable"
  | structuralError => "structural_error"
  | modifierArgumentError => "modifier_argument_error"
  | invalidCondition => "invalid_condition"
  | noPartsProcessed => "no_parts_processed"
  | partWriteFailure => "part_write_failure"

/-- Whether the kind ends the merge of the whole document. -/
def isFatal (kind : Kind) : Bool := kind = noPartsProcessed || kind = partWriteFailure

/-- The severity of a kind unless another one is given. -/
def severity (kind : Kind) : Severity :=
  if kind = partMissing || kind = tokenRepaired then .debug
  else if kind.isFatal then .error
  else .warning

/-- The kind of fault that a diagnostic of this kind amounts to. -/
def faultKind : Kind → Fault.Kind
  | partMissing => .partMissing
  | tokenRepaired => .template
  | unreconstructedToken => .structural
  | unresolvedVariable => .unresolvedVariable
  | structuralError => .structural
  | modifierArgumentError => .modifierArgument
  | invalidCondition => .invalidCondition
  | noPartsProcessed => .noParts
  | partWriteFailure => .partWrite

end Diagnostic.Kind

/-- A record of something that happened. -/
structure Diagnostic where
  /-- What happened. -/
  kind : Diagnostic.Kind
  /-- The message for a reader. -/
  message : String
  /-- The part it happened in. -/
  part : Option String := none
  /-- How grave it is. -/
  severity : Severity := kind.severity
  /-- Further data. -/
  details : List (String × Value) := []
  deriving Repr

namespace Diagnostic

/-- The diagnostic attributed to a part, unless it has one already. -/
def inPart (part : Option String) (diagnostic : Diagnostic) : Diagnostic :=
  { diagnostic with part := diagnostic.part.or part }

/-- The fault that a diagnostic amounts to. -/
def toFault (diagnostic : Diagnostic) : Fault where
  kind := diagnostic.kind.faultKind
  message := diagnostic.message
  details := diagnostic.details
  part := diagnostic.part

/-- A diagnostic as data; the part and the details are left out where there are none. -/
def record (diagnostic : Diagnostic) : Value :=
  .ofEntries <|
    [("kind".toList, .text diagnostic.kind.name.toList),
      ("severity".toList, .text diagnostic.severity.name.toList),
      ("message".toList, .text diagnostic.message.toList)] ++
    (match namedPart? diagnostic.part with
    | some part => [("part".toList, .text part.toList)]
    | none => []) ++
    if diagnostic.details.isEmpty then [] else [("details".toList, detailsValue diagnostic.details)]

end Diagnostic

end FormLetter
