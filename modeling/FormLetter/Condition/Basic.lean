import FormLetter.Text.Basic

/-!
# Conditions

What stands after `if`, `elseif` and `listif`: a single test of one value, or a conjunction of
tests. Text that has no such reading is kept as an invalid test.

* `Atom`, `Condition`: the tests and their conjunctions.
* `Atom.text`, `Condition.text`: how a condition is written.
* `Condition.identifiers`: the names whose values a condition asks for.

Main statement: `identifiers_test`.
-/

namespace FormLetter

/-- A test of the value of one identifier. -/
inductive Atom where
  /-- The value is absent or empty. -/
  | empty (identifier : Text)
  /-- The value is present and not empty. -/
  | notEmpty (identifier : Text)
  /-- The value is the literal; an absent value counts as empty. -/
  | equals (identifier literal : Text)
  /-- The value is not the literal; an absent value counts as empty. -/
  | notEquals (identifier literal : Text)
  /-- The value is present and not empty, written as the bare identifier. -/
  | truthy (identifier : Text)
  /-- Text that is no test; it never holds. -/
  | invalid (text : Text)
  deriving Repr, DecidableEq

/-- A test, or a conjunction that is tried from left to right. -/
inductive Condition where
  /-- One test. -/
  | test (atom : Atom)
  /-- All of the operands. -/
  | all (operands : List Condition)
  deriving Repr

/-- The conjunction of tests, with a single test standing for itself. -/
def Condition.ofAtoms : List Atom → Condition
  | [atom] => .test atom
  | atoms => .all (atoms.map .test)

/-! ## Written form -/

/-- How a test is written. -/
def Atom.text : Atom → Text
  | .empty identifier => "empty($".toList ++ identifier ++ ")".toList
  | .notEmpty identifier => "!empty($".toList ++ identifier ++ ")".toList
  | .equals identifier literal =>
    '$' :: identifier ++ " == \"".toList ++ literal ++ "\"".toList
  | .notEquals identifier literal =>
    '$' :: identifier ++ " != \"".toList ++ literal ++ "\"".toList
  | .truthy identifier => '$' :: identifier
  | .invalid text => text

/-- How a list of tests is written as a condition. -/
def Condition.text (atoms : List Atom) : Text :=
  Text.joinWith " and ".toList (atoms.map Atom.text)

/-! ## Identifiers -/

/-- The identifier that a test asks for. -/
def Atom.identifier? : Atom → Option Text
  | .empty identifier | .notEmpty identifier | .truthy identifier => some identifier
  | .equals identifier _ | .notEquals identifier _ => some identifier
  | .invalid _ => none

mutual

/-- The identifiers that a condition asks for, each once, in order of appearance. -/
def Condition.identifiers : Condition → List Text
  | .test atom => atom.identifier?.toList
  | .all operands => (Condition.identifiersOfAll operands).eraseDups

/-- The identifiers of the operands one after the other. -/
def Condition.identifiersOfAll : List Condition → List Text
  | [] => []
  | operand :: operands => operand.identifiers ++ Condition.identifiersOfAll operands

end

theorem Condition.identifiers_test (atom : Atom) :
    (Condition.test atom).identifiers = atom.identifier?.toList := by
  simp [Condition.identifiers]

end FormLetter
