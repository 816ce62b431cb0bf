import FormLetter.Command.Arguments

/-!
# Requests of the command line

The arguments of the program name a command, with the options of the program in front of it and the
arguments of the command behind it.

* `CommandName`: the commands.
* `Task`, `Request`: what a command is asked to do, and how.
* `Request.ofArguments`: the request in arguments.
-/

namespace FormLetter

/-! ## Commands -/

/-- A command. -/
inductive CommandName where
  /-- Checks templates. -/
  | validate
  /-- Merges templates with values. -/
  | merge
  /-- Shows the values. -/
  | context
  deriving Repr, DecidableEq

namespace CommandName

/-- Every command. -/
def all : List CommandName := [validate, merge, context]

/-- The name of a command. -/
def name : CommandName → String
  | validate => "validate"
  | merge => "merge"
  | context => "context"

/-- The command with a name. -/
def ofName? (text : Text) : Option CommandName :=
  all.find? fun command => command.name.toList = text

/-- The options of a command. -/
def keys : CommandName → List OptionKey
  | validate => [.help, .config, .json]
  | merge => [.help, .fields, .mapping, .system, .config, .out, .strict, .json]
  | context => [.help, .fields, .mapping, .system, .config]

/-- Whether a command has operands. It needs at least one then. -/
def takesOperands : CommandName → Bool
  | validate | merge => true
  | context => false

/-- Whether a command needs the file with the fields. -/
def needsFields : CommandName → Bool
  | validate => false
  | merge | context => true

end CommandName

/-- The options of the program. -/
def programKeys : List OptionKey := [.help, .version, .logLevel]

/-! ## Requests -/

/-- The files that a context is filled from, as they are given. -/
structure SourceFiles where
  /-- The fields. -/
  fields : Text
  /-- The mapping from tags to fields. -/
  mapping : Option Text := none
  /-- The system values. -/
  system : Option Text := none
  deriving Repr, DecidableEq

/-- What is to be done. -/
inductive Task where
  /-- Checks parts. -/
  | validate (parts : List Text) (json : Bool)
  /-- Merges parts with the values from some files and writes them below a directory. -/
  | merge (parts : List Text) (sources : SourceFiles) (out : Text) (json : Bool)
  /-- Shows the values from some files. -/
  | context (sources : SourceFiles)
  deriving Repr, DecidableEq

/-- A request. -/
structure Request where
  /-- The least severity that is logged. -/
  level : Severity := .warning
  /-- The configuration file, as it is given. -/
  config : Option Text := none
  /-- Whether strict mode is asked for. -/
  strict : Bool := false
  /-- What is to be done. -/
  task : Task
  deriving Repr, DecidableEq

/-- The output directory where none is given. -/
def defaultOut : Text := "./out".toList

/-- The files in the options of a command. -/
def Reading.sources (reading : Reading) : SourceFiles where
  fields := (reading.value? .fields).getD []
  mapping := reading.value? .mapping
  system := reading.value? .system

/-- What the options of a command ask for. -/
def Reading.task (reading : Reading) : CommandName → Task
  | .validate => .validate reading.operands (reading.has .json)
  | .merge =>
    .merge reading.operands reading.sources ((reading.value? .out).getD defaultOut)
      (reading.has .json)
  | .context => .context reading.sources

/-- The least severity that the options of the program ask for. -/
def Reading.level (reading : Reading) : Severity :=
  let level := (reading.value? .logLevel).bind fun level => Severity.ofLabel? (String.ofList level)
  level.getD .warning

/-- Whether a command lacks something that it needs. -/
def Reading.lacks (reading : Reading) (command : CommandName) : Bool :=
  (command.takesOperands && reading.operands.isEmpty) ||
    (command.needsFields && !reading.has .fields)

/-! ## Reading -/

/-- The options of the program, and the arguments from the name of the command on. The texts of the
arguments stand beside their forms. -/
def readProgram :
    Nat → List Argument → List Text → Reading → Except Interruption (Reading × List Text)
  | _, [], _, reading => .ok (reading, [])
  | 0, _, _, reading => .ok (reading, [])
  | _, .operand _ :: _, texts, reading => .ok (reading, texts)
  | _, .separator :: _ :: _, _, _ => .error (.fault (.invalidChoice ['-', '-']))
  | steps + 1, first :: rest, texts, reading => do
    let (reading, rest) ← readFirst programKeys false first rest reading
    readProgram steps rest (texts.drop (texts.length - rest.length)) reading

/-- The request of a command. -/
def readCommand (program : Reading) (name : Text) (texts : List Text) :
    Except Interruption Request :=
  match CommandName.ofName? name with
  | none => .error (.fault (.invalidChoice name))
  | some command => do
    let reading ← readArguments command.keys command.takesOperands texts
    if reading.lacks command then .error (.fault .missing)
    else if !(program.extras ++ reading.extras).isEmpty then
      .error (.fault (.unrecognized (program.extras ++ reading.extras)))
    else
      return {
        level := program.level
        config := reading.value? .config
        strict := reading.has .strict
        task := reading.task command }

/-- The request in arguments, if they name a command. -/
def Request.ofArguments (texts : List Text) : Except Interruption (Option Request) :=
  match Argument.classify programKeys texts with
  | .error fault => .error (.fault fault)
  | .ok arguments => do
    match ← readProgram arguments.length arguments texts {} with
    | (program, []) =>
      if program.extras.isEmpty then return none
      else .error (.fault (.unrecognized program.extras))
    | (program, name :: texts) => return some (← readCommand program name texts)

end FormLetter
