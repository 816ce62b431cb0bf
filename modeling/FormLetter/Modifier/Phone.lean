import FormLetter.Text.Basic

/-!
# Phone numbers

The digits of a value are laid into a pattern: `%1` to `%9` take that many of the digits, or as many
as are left, and every other character of the pattern stands for itself.

* `phoneItems`: a pattern as a list of items.
* `layDigits`, `formatPhone`: the digits laid into a pattern.
-/

namespace FormLetter

/-- An item of a pattern. -/
inductive PhoneItem where
  /-- A group of digits. -/
  | group (size : Nat)
  /-- A character. -/
  | single (c : Char)
  deriving Repr, DecidableEq

/-- The size of a group from its digit, which is not zero. -/
def groupSize? (c : Char) : Option Nat :=
  if '1' ≤ c ∧ c ≤ '9' then some (c.toNat - 0x30) else none

/-- A pattern as a list of items. -/
def phoneItems : Text → List PhoneItem
  | [] => []
  | '%' :: c :: pattern =>
    match groupSize? c with
    | some size => .group size :: phoneItems pattern
    | none => .single '%' :: phoneItems (c :: pattern)
  | c :: pattern => .single c :: phoneItems pattern

/-- Digits laid into items. -/
def layDigits (digits : Text) : List PhoneItem → Text
  | [] => []
  | .group size :: items => digits.take size ++ layDigits (digits.drop size) items
  | .single c :: items => c :: layDigits digits items

/-- The digits of a value laid into a pattern. -/
def formatPhone (pattern value : Text) : Text :=
  layDigits (value.filter Char.isDigit) (phoneItems pattern)

end FormLetter
