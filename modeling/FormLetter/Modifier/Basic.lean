import FormLetter.Text.Basic

/-!
# Modifiers

A modifier changes the value of a merge tag. A tag carries a chain of them, applied from left to
right.

* `Modifier.Kind`: the modifiers by name, with the number of arguments of each.
* `Modifier`: a modifier with its arguments.
* `Modifier.ofArgs`: a modifier from a list of arguments, if their number is right.
* `Modifier.text`: how a modifier is written.

Main statement: `ofName?_name`.
-/

namespace FormLetter

/-- The modifiers without their arguments. -/
inductive Modifier.Kind where
  | upper
  | lower
  | ucwords
  | ucfirst
  | phoneFormat
  | dateFormat
  | replace
  deriving Repr, DecidableEq

namespace Modifier.Kind

/-- Every kind, in order. -/
def all : List Kind := [upper, lower, ucwords, ucfirst, phoneFormat, dateFormat, replace]

/-- The name by which a template calls the modifier. -/
def name : Kind → String
  | upper => "upper"
  | lower => "lower"
  | ucwords => "ucwords"
  | ucfirst => "ucfirst"
  | phoneFormat => "phone_format"
  | dateFormat => "date_format"
  | replace => "replace"

/-- The number of arguments of the modifier. -/
def arity : Kind → Nat
  | upper | lower | ucwords | ucfirst => 0
  | phoneFormat | dateFormat => 1
  | replace => 2

/-- The modifier of a name. -/
def ofName? (name : Text) : Option Kind := all.find? fun kind => kind.name.toList = name

theorem ofName?_name (kind : Kind) : ofName? kind.name.toList = some kind := by
  cases kind <;> rfl

end Modifier.Kind

/-- A modifier with its arguments. -/
inductive Modifier where
  /-- Upper case. -/
  | upper
  /-- Lower case. -/
  | lower
  /-- Upper case for the first character of each word. -/
  | ucwords
  /-- Upper case for the first character. -/
  | ucfirst
  /-- The digits of the value laid into a pattern. -/
  | phoneFormat (pattern : Text)
  /-- The value read as a date and written after a pattern. -/
  | dateFormat (pattern : Text)
  /-- Every occurrence of a text replaced by another. -/
  | replace (sought new : Text)
  deriving Repr, DecidableEq

namespace Modifier

/-- The modifier without its arguments. -/
def kind : Modifier → Kind
  | upper => .upper
  | lower => .lower
  | ucwords => .ucwords
  | ucfirst => .ucfirst
  | phoneFormat _ => .phoneFormat
  | dateFormat _ => .dateFormat
  | replace _ _ => .replace

/-- The arguments of a modifier. -/
def args : Modifier → List Text
  | phoneFormat pattern | dateFormat pattern => [pattern]
  | replace sought new => [sought, new]
  | _ => []

/-- A modifier was given the wrong number of arguments. -/
structure ArityFault where
  /-- The modifier. -/
  kind : Kind
  /-- How many arguments it was given. -/
  given : Nat
  deriving Repr, DecidableEq

/-- The wording of the fault. -/
def ArityFault.message (fault : ArityFault) : String :=
  s!"Modifier '{fault.kind.name}' takes {fault.kind.arity} argument(s), got {fault.given}"

/-- A modifier from its arguments, if their number is right. -/
def ofArgs : Kind → List Text → Except ArityFault Modifier
  | .upper, [] => .ok upper
  | .lower, [] => .ok lower
  | .ucwords, [] => .ok ucwords
  | .ucfirst, [] => .ok ucfirst
  | .phoneFormat, [pattern] => .ok (phoneFormat pattern)
  | .dateFormat, [pattern] => .ok (dateFormat pattern)
  | .replace, [sought, new] => .ok (replace sought new)
  | kind, args => .error ⟨kind, args.length⟩

/-- How a modifier is written: its name, then each argument between double quotes after a colon. -/
def text (modifier : Modifier) : Text :=
  modifier.kind.name.toList ++ modifier.args.flatMap fun arg => ":\"".toList ++ arg ++ ['"']

end Modifier

end FormLetter
