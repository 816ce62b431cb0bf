import FormLetter.Text.Quoted

/-!
# Faults of YAML text

* `Yaml.Fault`: why a text has no value.
* `Yaml.Fault.message`: the wording of the faults that have one.
-/

namespace FormLetter

namespace Yaml

/-- Why a text has no value. -/
inductive Fault where
  /-- The text is no well-formed document of known tags. -/
  | malformed
  /-- An escape stands for a number that is no character. -/
  | noCharacter (code : Nat)
  /-- A scalar tagged as an integer is none in its base. -/
  | noInteger (base : Nat) (digits : Text)
  /-- A scalar tagged as a number is none. -/
  | noNumber (digits : Text)
  /-- A scalar tagged as a number has no digits at all. -/
  | noDigits
  /-- A scalar tagged as a truth value is none of its words. -/
  | noTruthWord
  /-- A scalar tagged as a point in time has another form. -/
  | noMoment
  /-- The field of a point in time is out of its range. -/
  | outOfRange (wording : String)
  deriving Repr, DecidableEq

/-- The wording of a fault. -/
def Fault.message : Fault → Text
  | malformed => "malformed document".toList
  | noCharacter _ => "chr() arg not in range(0x110000)".toList
  | noInteger base digits =>
    "invalid literal for int() with base ".toList ++ Text.ofNat base ++ ": ".toList ++ digits.quoted
  | noNumber digits => "could not convert string to float: ".toList ++ digits.quoted
  | noDigits => "no digits".toList
  | noTruthWord => "no truth value".toList
  | noMoment => "no point in time".toList
  | outOfRange wording => wording.toList

end Yaml

end FormLetter
