import FormLetter.Configuration.Check
import FormLetter.File.Storage
import FormLetter.Json.Reader
import FormLetter.Yaml.Reader

/-!
# Configuration files

A configuration file whose name ends in `.json`, in any case, holds JSON; any other holds YAML. Its
path names the configuration in faults.

* `LoadFault`: why a configuration cannot be loaded.
* `configurationData`: the data in a text.
* `Configuration.load`: the configuration in a file.
-/

namespace FormLetter

open Text

/-- Why a configuration cannot be loaded. -/
inductive LoadFault where
  /-- The file is missing, is not well formed, or holds no proper configuration. -/
  | fault (fault : Fault)
  /-- A scalar of the file does not have the form of its tag. -/
  | scalar (fault : Yaml.Fault)
  /-- The file cannot be read. -/
  | file (fault : FileFault)
  deriving Repr

/-- The fault for a file that cannot be loaded. -/
def loadFault (path : Path) (message : String) : Fault where
  kind := .configLoad
  message := s!"{message}{String.ofList path.text}"
  details := [("path", .text path.text)]

/-- Whether a file holds JSON. -/
def Path.isJson (path : Path) : Bool := lower path.suffix = ".json".toList

/-- The data in the text of a file. -/
def configurationData (path : Path) (text : Text) : Except LoadFault Value :=
  if path.isJson then
    match Json.read? text with
    | some data => .ok data
    | none => .error (.fault (loadFault path "Invalid JSON in "))
  else
    match Yaml.read text with
    | .ok data => .ok data
    | .error .malformed => .error (.fault (loadFault path "Invalid YAML in "))
    | .error fault => .error (.scalar fault)

/-- The configuration in the text of a file. -/
def Configuration.ofFileText (path : Path) (text : Text) : Except LoadFault Configuration :=
  match configurationData path text with
  | .error fault => .error fault
  | .ok data => (Configuration.ofData path.text catalogue data).mapError .fault

/-- The configuration in a file. -/
def Configuration.load {m : Type → Type} [Monad m] (storage : Storage m) (path : Path) :
    m (Except LoadFault Configuration) := do
  if !(← storage.contains path) then
    return .error (.fault (loadFault path "Configuration file not found: "))
  else
    match ← storage.readText path with
    | .error fault => return .error (.file fault)
    | .ok text => return Configuration.ofFileText path text

end FormLetter
