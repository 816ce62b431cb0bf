import FormLetter.Condition.Basic
import FormLetter.Diagnostic.Finding

/-!
# Evaluating conditions

A condition is evaluated against a function that gives each identifier its value, which is empty if
the identifier has none. A conjunction is tried from left to right and ends at the first operand
that does not hold. Text that is no test does not hold and is reported; a conjunction among the
operands of another does not hold.

* `Atom.holds`, `Condition.evaluate`.
-/

namespace FormLetter

/-- Whether a test holds. -/
def Atom.holds (valueOf : Text → Text) : Atom → Bool
  | .empty identifier => valueOf identifier = []
  | .notEmpty identifier | .truthy identifier => valueOf identifier ≠ []
  | .equals identifier literal => valueOf identifier = literal
  | .notEquals identifier literal => valueOf identifier ≠ literal
  | .invalid _ => false

/-- What is noticed when a test is evaluated. -/
def Atom.findings : Atom → List Finding
  | .invalid text => [.invalidCondition text]
  | _ => []

/-- Whether an operand of a conjunction holds, and what is noticed. -/
def Condition.evaluateOperand (valueOf : Text → Text) : Condition → Bool × List Finding
  | .test atom => (atom.holds valueOf, atom.findings)
  | .all _ => (false, [])

/-- Whether all operands hold, and what is noticed up to the first that does not. -/
def Condition.evaluateOperands (valueOf : Text → Text) : List Condition → Bool × List Finding
  | [] => (true, [])
  | operand :: operands =>
    match operand.evaluateOperand valueOf with
    | (false, findings) => (false, findings)
    | (true, findings) =>
      let (holds, more) := Condition.evaluateOperands valueOf operands
      (holds, findings ++ more)

/-- Whether a condition holds, and what is noticed. -/
def Condition.evaluate (valueOf : Text → Text) : Condition → Bool × List Finding
  | .test atom => (atom.holds valueOf, atom.findings)
  | .all operands => Condition.evaluateOperands valueOf operands

end FormLetter
