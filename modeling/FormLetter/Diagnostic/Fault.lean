import FormLetter.Value

/-!
# Faults

A fault ends an operation: a configuration that cannot be used, a document that cannot be merged,
or, in strict mode, the first problem of a template.

* `Fault.Kind`: the faults, each with its code.
* `Fault.text`: the code, the message and the part.
* `Fault.record`: a fault as data.
-/

namespace FormLetter

/-- What a fault is about. -/
inductive Fault.Kind where
  /-- A configuration file is missing or cannot be read. -/
  | configLoad
  /-- A configuration does not have the required form. -/
  | configValidation
  /-- A note about a template that has no kind of its own. -/
  | template
  /-- A part is absent. -/
  | partMissing
  /-- No key matches an identifier. -/
  | unresolvedVariable
  /-- Markers or tags are not well formed. -/
  | structural
  /-- A modifier or its arguments are not well formed. -/
  | modifierArgument
  /-- A condition cannot be read. -/
  | invalidCondition
  /-- A document has no parts. -/
  | noParts
  /-- A merged part could not be written. -/
  | partWrite
  deriving Repr, DecidableEq

/-- The code of a kind of fault. -/
def Fault.Kind.code : Fault.Kind → String
  | .configLoad => "DM_CONFIG_LOAD_ERROR"
  | .configValidation => "DM_CONFIG_VALIDATION_ERROR"
  | .template => "DM_TEMPLATE_ERROR"
  | .partMissing => "DM_TEMPLATE_PART_MISSING"
  | .unresolvedVariable => "DM_UNRESOLVED_VARIABLE"
  | .structural => "DM_STRUCTURAL_ERROR"
  | .modifierArgument => "DM_MODIFIER_ARGUMENT_ERROR"
  | .invalidCondition => "DM_INVALID_CONDITION"
  | .noParts => "DM_NO_PARTS_PROCESSED"
  | .partWrite => "DM_PART_WRITE_FAILURE"

/-- A fault with what is known about it. -/
structure Fault where
  /-- What the fault is about. -/
  kind : Fault.Kind
  /-- The message for a reader. -/
  message : String
  /-- Further data. -/
  details : List (String × Value) := []
  /-- The part that is concerned. -/
  part : Option String := none
  deriving Repr

/-- The part of a fault or a diagnostic, if it has a name. -/
def namedPart? (part : Option String) : Option String := part.filter (· ≠ "")

/-- A fault as one line. -/
def Fault.text (fault : Fault) : String :=
  let line := s!"[{fault.kind.code}] {fault.message}"
  match namedPart? fault.part with
  | some part => s!"{line} (part: {part})"
  | none => line

/-- Further data as a value. -/
def detailsValue (details : List (String × Value)) : Value :=
  .ofEntries (details.map fun entry => (entry.1.toList, entry.2))

/-- A fault as data; the details and the part are left out where there are none. -/
def Fault.record (fault : Fault) : Value :=
  .ofEntries <|
    [("code".toList, .text fault.kind.code.toList),
      ("message".toList, .text fault.message.toList)] ++
    (if fault.details.isEmpty then [] else [("details".toList, detailsValue fault.details)]) ++
    match namedPart? fault.part with
    | some part => [("part".toList, .text part.toList)]
    | none => []

end FormLetter
