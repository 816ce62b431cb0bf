import FormLetter.Document.Part
import FormLetter.File.Path

/-!
# Inputs of the command line

* `InputFault`: why an input of the command line cannot be used.
* `PartFile.ofArgument`: the part and the file that an argument names.
-/

namespace FormLetter

/-- Why an input of the command line cannot be used. -/
inductive InputFault where
  /-- The argument names no part. -/
  | unknownPart (argument : Text)
  /-- The file of a part is missing. -/
  | partMissing (path : Path)
  /-- Another file is missing. -/
  | fileMissing (label : String) (path : Path)
  /-- The file holds no JSON. -/
  | notJson (path : Path)
  /-- The file holds no list of fields. -/
  | notFields
  /-- The file holds no mapping from tags to fields. -/
  | notMapping
  deriving Repr, DecidableEq

/-- The wording of a fault. -/
def InputFault.message : InputFault → String
  | unknownPart argument =>
    s!"Cannot tell which part '{String.ofList argument}' is (use PART=FILE)"
  | partMissing path => s!"Part file not found: {String.ofList path.text}"
  | fileMissing label path => s!"{label} file not found: {String.ofList path.text}"
  | notJson path => s!"Invalid JSON in {String.ofList path.text}"
  | notFields => "Fields file must hold a list of field records"
  | notMapping => "Mapping file must hold an object of merge tag -> field id"

/-- A part with the file that holds it. -/
structure PartFile where
  /-- The part. -/
  part : Part
  /-- The file. -/
  path : Path
  deriving Repr, DecidableEq

/-- The part and the file that an argument names: `PART=FILE`, or a file whose name is that of a
part inside a container. -/
def PartFile.ofArgument (argument : Text) : Except InputFault PartFile :=
  let (name, path) :=
    match Text.cutAt '=' argument with
    | (name, some file) => (name, Path.ofText file)
    | (file, none) => ("word/".toList ++ (Path.ofText file).name, Path.ofText file)
  match Part.parse? name with
  | some part => .ok { part, path }
  | none => .error (.unknownPart argument)

end FormLetter
