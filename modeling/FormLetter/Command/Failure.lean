import FormLetter.Command.Input
import FormLetter.Configuration.File
import FormLetter.Log.Basic

/-!
# Failures of commands

* `ExitCode`: how the program ends.
* `Failure`: why a command fails before it has a result.
* `Job`: what a command does, with the log that it leaves whether it fails or not.
-/

namespace FormLetter

/-- How the program ends. -/
inductive ExitCode where
  /-- The command did what it was asked to do. -/
  | ok
  /-- No command was given. -/
  | noCommand
  /-- The arguments cannot be used. -/
  | badArguments
  /-- The merge failed. -/
  | mergeFailed
  /-- An input cannot be used, or a template has errors. -/
  | badInput
  /-- The configuration cannot be used. -/
  | badConfiguration
  /-- Something else failed. -/
  | unexpected
  deriving Repr, DecidableEq

/-- The number of an exit code. -/
def ExitCode.code : ExitCode → UInt8
  | ok => 0
  | noCommand => 1
  | badArguments | mergeFailed => 2
  | badInput => 10
  | badConfiguration => 11
  | unexpected => 20

/-- Why a command fails before it has a result. -/
inductive Failure where
  /-- An input cannot be used. -/
  | input (fault : InputFault)
  /-- The configuration cannot be used. -/
  | configuration (fault : Fault)
  /-- Something else failed, a file that cannot be read for instance. -/
  | unexpected
  deriving Repr

namespace Failure

/-- The exit code of a failure. -/
def exit : Failure → ExitCode
  | input _ => .badInput
  | configuration _ => .badConfiguration
  | unexpected => .unexpected

/-- The wording of a failure. -/
def message : Failure → String
  | input fault => fault.message
  | configuration fault => fault.text
  | unexpected => "Unexpected error"

/-- The failure of a configuration that cannot be loaded. -/
def ofLoad : LoadFault → Failure
  | .fault fault => configuration fault
  | .scalar _ | .file _ => unexpected

end Failure

/-! ## Jobs -/

/-- What a command does with a storage. -/
abbrev Job (m : Type → Type) := ExceptT Failure (StateT (List LogEntry) m)

namespace Job

variable {m : Type → Type} [Monad m]

/-- Adds lines to the log. -/
def log (entries : List LogEntry) : Job m Unit := modify (· ++ entries)

/-- An answer of the storage. -/
def ask {α : Type} (answer : m α) : Job m α := monadLift answer

/-- A result, or a failure. -/
def ofExcept {ε α : Type} (failure : ε → Failure) : Except ε α → Job m α
  | .ok result => pure result
  | .error fault => throw (failure fault)

end Job

end FormLetter
