import FormLetter.Command.Failure
import FormLetter.Command.Request
import FormLetter.Document.Basic
import FormLetter.Log.Filling

/-!
# Sources of a command

The configuration, the document and the context that a command works with, read from a storage.

* `readConfiguration`, `readDocument`: the configuration and the document.
* `Submission.ofData`: what a context is filled from, in the data of the three files.
* `readContext`: the context.
-/

namespace FormLetter

variable {m : Type → Type} [Monad m]

/-! ## Configuration and document -/

/-- A path that is given and not empty. -/
def givenPath? (text : Option Text) : Option Path :=
  (text.filter fun text => !text.isEmpty).map .ofText

/-- The configuration of a request; strict mode may be asked for beside it. -/
def readConfiguration (storage : Storage m) (request : Request) : Job m Configuration := do
  let configuration ←
    match givenPath? request.config with
    | some path => Job.ofExcept Failure.ofLoad (← Job.ask (Configuration.load storage path))
    | none => pure {}
  let settings := configuration.settings
  return {
    configuration with
    settings := { settings with strict := settings.strict || request.strict } }

/-- The part that an argument names, with its markup. -/
def readPart (storage : Storage m) (argument : Text) : Job m (Part × Text) := do
  let file ← Job.ofExcept Failure.input (PartFile.ofArgument argument)
  if !(← Job.ask (storage.contains file.path)) then throw (.input (.partMissing file.path))
  else
    let markup ←
      Job.ofExcept (fun _ => Failure.unexpected) (← Job.ask (storage.readText file.path))
    return (file.part, markup)

/-- The document that arguments name. -/
def readDocument (storage : Storage m) (arguments : List Text) : Job m Document :=
  return .ofParts (← arguments.mapM (readPart storage))

/-! ## Context -/

/-- The data in a JSON file; nothing where no file is given. -/
def readData (storage : Storage m) (label : String) (text : Option Text) : Job m Value :=
  match givenPath? text with
  | none => return .null
  | some path => do
    if !(← Job.ask (storage.contains path)) then throw (.input (.fileMissing label path))
    else
      let text ← Job.ofExcept (fun _ => Failure.unexpected) (← Job.ask (storage.readText path))
      match Json.read? text with
      | some data => return data
      | none => throw (.input (.notJson path))

/-- The entries of a value that is a mapping. -/
def Value.entries? : Value → Option (List (Text × Value))
  | .map entries => some (entries.map fun (key, value) => (key.toText, value))
  | _ => none

/-- The fields in the data of their file: a list, or the list in a mapping. -/
def fieldItems (data : Value) : Except InputFault (List Value) :=
  let items :=
    match data with
    | .map _ => (data.field? "fields").getD (.list [])
    | _ => data
  match items with
  | .list items => .ok items
  | _ => .error .notFields

/-- The system values: those of their own file, or else those in a mapping that holds the fields. -/
def systemValues (fields system : Value) : Value :=
  match fields with
  | .map _ => if system.isFilled then system else (fields.field? "system").getD .null
  | _ => system

/-- A value without which a step is left out, as a mapping. -/
def optionalEntries (value : Value) : Option (List (Text × Value)) :=
  if value.isFilled then value.entries? else some []

/-- A field from a record; nothing else is a field. -/
def fieldOfItem? (item : Value) : Option Field :=
  match item with
  | .map _ => some (.ofRecord item)
  | _ => none

/-- The context from the files of a request. -/
def readContext (storage : Storage m) (now : Moment) (configuration : Configuration)
    (sources : SourceFiles) : Job m Context := do
  let fieldsData ← readData storage "Fields" (some sources.fields)
  let systemData ← readData storage "System values" sources.system
  let items ← Job.ofExcept Failure.input (fieldItems fieldsData)
  let mappingData ← readData storage "Mapping" sources.mapping
  match optionalEntries mappingData, items.mapM fieldOfItem? with
  | none, _ => throw (.input .notMapping)
  | _, none => throw .unexpected
  | some mapping, some fields =>
    let mapping := mapping.map fun (tag, id) => (tag, id.toText)
    Job.log ((fillMapping fields mapping .empty).2.map MappingNote.logEntry)
    match optionalEntries (systemValues fieldsData systemData) with
    | none => throw .unexpected
    | some system =>
      let filled := fillContext configuration.rules configuration.settings.abbreviationLength now
        { fields, mapping, system }
      Job.log (filled.log fields.length)
      return filled.context

end FormLetter
