import FormLetter.File.Path
import FormLetter.OrderedMap
import FormLetter.Text.Quoted

/-!
# Storage of files

* `FileFault`: why a file cannot be read or written.
* `Storage`: what a program asks of the place where its files are.
* `unifyBreaks`: the line breaks of a file as line feeds.
* `FileTree`: files and directories in memory, as a storage.
-/

namespace FormLetter

/-! ## Faults -/

/-- What is wrong with a file. -/
inductive FileFault.Kind where
  /-- There is no file. -/
  | notFound
  /-- There is something else already. -/
  | occupied
  /-- A step of the path is no directory. -/
  | notDirectory
  /-- There is a directory in place of a file. -/
  | isDirectory
  /-- Anything else. -/
  | other
  deriving Repr, DecidableEq

/-- The name of a kind. -/
def FileFault.Kind.name : FileFault.Kind → String
  | notFound => "FileNotFoundError"
  | occupied => "FileExistsError"
  | notDirectory => "NotADirectoryError"
  | isDirectory => "IsADirectoryError"
  | other => "OSError"

/-- The number and the wording of a kind. -/
def FileFault.Kind.wording : FileFault.Kind → String
  | notFound => "[Errno 2] No such file or directory"
  | occupied => "[Errno 17] File exists"
  | notDirectory => "[Errno 20] Not a directory"
  | isDirectory => "[Errno 21] Is a directory"
  | other => "[Errno 5] Input/output error"

/-- Why a file cannot be read or written. -/
structure FileFault where
  /-- What is wrong. -/
  kind : FileFault.Kind
  /-- The file. -/
  path : Path
  deriving Repr, DecidableEq

/-- The wording of a fault. -/
def FileFault.message (fault : FileFault) : String :=
  s!"{fault.kind.wording}: {String.ofList fault.path.text.quoted}"

/-! ## Storages -/

/-- What a program asks of the place where its files are. -/
structure Storage (m : Type → Type) where
  /-- Whether there is a file or a directory. -/
  contains : Path → m Bool
  /-- The content of a file. -/
  read : Path → m (Except FileFault Text)
  /-- Writes a file, and makes the directories that it needs. -/
  write : Path → Text → m (Except FileFault Unit)

/-- A text with a line feed for each line break; `behindReturn` tells whether a carriage return,
which has its line feed already, stands in front of it. -/
def unifyBreaksFrom (behindReturn : Bool) : Text → Text
  | [] => []
  | c :: rest =>
    if c = '\r' then '\n' :: unifyBreaksFrom true rest
    else if behindReturn && c = '\n' then unifyBreaksFrom false rest
    else c :: unifyBreaksFrom false rest

/-- A text with a line feed for each line break of any kind that files have. -/
def unifyBreaks (text : Text) : Text := unifyBreaksFrom false text

/-- The text of a file. -/
def Storage.readText {m : Type → Type} [Monad m] (storage : Storage m) (path : Path) :
    m (Except FileFault Text) := do
  return (← storage.read path).map unifyBreaks

/-! ## Trees -/

/-- What stands at a place of a tree. -/
inductive FileEntry where
  /-- A file with its content. -/
  | file (content : Text)
  /-- A directory. -/
  | directory
  deriving Repr, DecidableEq

/-- Files and directories by the steps that lead to them, joined by slashes. -/
abbrev FileTree := OrderedMap FileEntry

namespace FileTree

/-- What stands at the end of some steps. -/
def entryAt? (tree : FileTree) (steps : List Text) : Option FileEntry :=
  if steps.isEmpty then some .directory else tree.get? (Text.joinWith ['/'] steps)

/-- The steps that lead to a place, starting from another one, without steps to the directory above.
-/
def walk (tree : FileTree) : List Text → List Text → Except FileFault.Kind (List Text)
  | here, [] => .ok here
  | here, part :: parts =>
    match tree.entryAt? here with
    | none => .error .notFound
    | some (.file _) => .error .notDirectory
    | some .directory =>
      walk tree (if part = ['.', '.'] then here.dropLast else here ++ [part]) parts

/-- The steps that lead to a path. Nothing absolute is in a tree. -/
def locate (tree : FileTree) (path : Path) : Except FileFault.Kind (List Text) :=
  if path.root.isEmpty then tree.walk [] path.parts else .error .notFound

/-- What stands at a path. -/
def find? (tree : FileTree) (path : Path) : Option FileEntry :=
  match tree.locate path with
  | .ok steps => tree.entryAt? steps
  | .error _ => none

/-- The content of a file. -/
def read (tree : FileTree) (path : Path) : Except FileFault Text :=
  match tree.locate path with
  | .error kind => .error ⟨kind, path⟩
  | .ok steps =>
    match tree.entryAt? steps with
    | some (.file content) => .ok content
    | some .directory => .error ⟨.isDirectory, path⟩
    | none => .error ⟨.notFound, path⟩

/-- The tree with something at the end of some steps. -/
def put (tree : FileTree) (steps : List Text) (entry : FileEntry) : FileTree :=
  tree.insert (Text.joinWith ['/'] steps) entry

/-- Makes the directories along some steps, starting from a place. -/
def makeDirectories (tree : FileTree) : List Text → List Text → Except FileFault.Kind FileTree
  | _, [] => .ok tree
  | here, part :: parts =>
    let next := if part = ['.', '.'] then here.dropLast else here ++ [part]
    match tree.entryAt? next with
    | some .directory => makeDirectories tree next parts
    | none => makeDirectories (tree.put next .directory) next parts
    | some (.file _) => .error (if parts.isEmpty then .occupied else .notDirectory)

/-- Writes a file at the end of some steps. -/
def insertFile (tree : FileTree) (steps : List Text) (content : Text) : FileTree :=
  tree.put steps (.file content)

/-- Writes a file. -/
def write (tree : FileTree) (path : Path) (content : Text) : Except FileFault FileTree :=
  let outcome : Except FileFault.Kind FileTree := do
    if !path.root.isEmpty then .error .notFound
    else
      let tree ← tree.makeDirectories [] path.parts.dropLast
      let steps ← tree.locate path
      match tree.entryAt? steps with
      | some .directory => .error .isDirectory
      | _ => .ok (tree.insertFile steps content)
  outcome.mapError fun kind => ⟨kind, path⟩

/-- The files with their content. -/
def files (tree : FileTree) : List (Text × Text) :=
  tree.entries.filterMap fun (path, entry) =>
    match entry with
    | .file content => some (path, content)
    | .directory => none

/-- The tree of some files. A file whose directories cannot be made is left out. -/
def ofFiles (files : List (Text × Text)) : FileTree :=
  files.foldl (fun tree file => ((tree.write (.ofText file.1) file.2).toOption).getD tree) .empty

/-- A tree as a storage. -/
def storage : Storage (StateM FileTree) where
  contains path := do return ((← get).find? path).isSome
  read path := do return (← get).read path
  write path content := do
    match (← get).write path content with
    | .ok tree =>
      set tree
      return .ok ()
    | .error fault => return .error fault

end FileTree

end FormLetter
