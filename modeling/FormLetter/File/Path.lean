import FormLetter.Text.Basic

/-!
# Paths of files

A path is kept in its plain form: empty steps and steps to the present directory are left out, and
so is a slash at the end. Steps to the directory above stay.

* `Path.ofText`, `Path.text`: a path from its text, and its text.
* `Path.name`, `Path.suffix`: the last step, and what follows the last point in it.
* `Path.join`: a path below another one.
-/

namespace FormLetter

/-- A path in its plain form. -/
structure Path where
  /-- The slashes that it starts with: none, one, or exactly two. -/
  root : Text
  /-- The steps. -/
  parts : List Text
  deriving Repr, DecidableEq

namespace Path

/-- The slashes that an absolute path starts with; only two have a meaning of their own. -/
def rootOf (text : Text) : Text :=
  match (text.takeWhile (· = '/')).length with
  | 0 => []
  | 2 => ['/', '/']
  | _ => ['/']

/-- Whether a step leads anywhere. -/
def isStep (part : Text) : Bool := !part.isEmpty && part ≠ ['.']

/-- A path from its text. -/
def ofText (text : Text) : Path where
  root := rootOf text
  parts := (Text.splitOn '/' text).filter isStep

/-- The text of a path. -/
def text (path : Path) : Text :=
  if path.root.isEmpty && path.parts.isEmpty then ['.']
  else path.root ++ Text.joinWith ['/'] path.parts

/-- The last step of a path. -/
def name (path : Path) : Text := path.parts.getLast?.getD []

/-- What follows the last point in the last step, with that point. A point at either end of the step
does not count. -/
def suffix (path : Path) : Text :=
  let ending := Text.afterLast '.' path.name
  if ending.isEmpty || path.name.length ≤ ending.length + 1 then [] else '.' :: ending

/-- A relative path below another path. -/
def join (path below : Path) : Path := { path with parts := path.parts ++ below.parts }

/-- The path without its last step. -/
def parent (path : Path) : Path := { path with parts := path.parts.dropLast }

end Path

end FormLetter
