import FormLetter.Json.Printer

/-!
# Problems of a configuration

A configuration is checked as a whole: everything that is wrong with it is collected, each problem
with the place where it is and its cause.

* `Place`: a step on the way to a value inside a configuration.
* `Problem`: a cause at a place.
* `Checked`: a value, or everything that is wrong with it; `Checked.combine` keeps the problems of
  both sides.
* `Problem.records`: problems as data, in the order of their text.

Main statement: `combine_eq_ok_iff`.
-/

namespace FormLetter

/-- A step on the way to a value inside a configuration. -/
inductive Place where
  /-- The value of a key. -/
  | key (name : Text)
  /-- The item at an index, or the value of a key that is an integer. -/
  | index (n : Int)
  deriving Repr, DecidableEq

/-- A place as data. -/
def Place.toValue : Place → Value
  | key name => .text name
  | index n => .int n

/-- What is wrong with a value. -/
inductive Problem.Cause where
  /-- A key that has no meaning. -/
  | unknownKey
  /-- A key that is no text. -/
  | keyNotText
  /-- A key that must be there is not. -/
  | missing
  /-- A text is expected. -/
  | notText
  /-- The bytes are no text. -/
  | notEncodedText
  /-- An integer is expected. -/
  | notInteger
  /-- The text is no integer. -/
  | unreadableInteger
  /-- The number is too large for an integer. -/
  | oversizedInteger
  /-- The number has something behind the point. -/
  | fractional
  /-- The number is infinite or none. -/
  | infinite
  /-- A truth value is expected. -/
  | notTruth
  /-- The text or number is no truth value. -/
  | unreadableTruth
  /-- A number is expected. -/
  | notNumber
  /-- The text is no number. -/
  | unreadableNumber
  /-- A list is expected. -/
  | notList
  /-- A mapping is expected. -/
  | notMapping
  /-- The list has too few items. -/
  | tooShort
  /-- The number does not exceed the bound. -/
  | notGreater
  /-- The number is below the least one. -/
  | tooSmall
  /-- The number is above the greatest one. -/
  | tooLarge
  /-- The value has the right kind, but not the right content. -/
  | unsuitable (reason : Text)
  deriving Repr, DecidableEq

/-- The name of a cause. -/
def Problem.Cause.name : Problem.Cause → String
  | unknownKey => "extra_forbidden"
  | keyNotText => "invalid_key"
  | missing => "missing"
  | notText => "string_type"
  | notEncodedText => "string_unicode"
  | notInteger => "int_type"
  | unreadableInteger => "int_parsing"
  | oversizedInteger => "int_parsing_size"
  | fractional => "int_from_float"
  | infinite => "finite_number"
  | notTruth => "bool_type"
  | unreadableTruth => "bool_parsing"
  | notNumber => "float_type"
  | unreadableNumber => "float_parsing"
  | notList => "list_type"
  | notMapping => "model_type"
  | tooShort => "too_short"
  | notGreater => "greater_than"
  | tooSmall => "greater_than_equal"
  | tooLarge => "less_than_equal"
  | unsuitable _ => "value_error"

/-- A cause at a place. -/
structure Problem where
  /-- The way to the value, from the outside. -/
  places : List Place
  /-- What is wrong there. -/
  cause : Problem.Cause
  deriving Repr, DecidableEq

namespace Problem

/-- The same problem, seen from further outside. -/
def within (place : Place) (problem : Problem) : Problem :=
  { problem with places := place :: problem.places }

/-- A problem as data; only content that does not suit comes with its reason. -/
def record (problem : Problem) : Value :=
  .ofEntries <|
    [("loc".toList, .list (problem.places.map Place.toValue))] ++
    (match problem.cause with
    | .unsuitable reason => [("msg".toList, .text ("Value error, ".toList ++ reason))]
    | _ => []) ++
    [("type".toList, .text problem.cause.name.toList)]

/-- Problems as data, in the order of their text. -/
def records (problems : List Problem) : List Value :=
  (problems.map record).mergeSort fun a b => Text.le (Json.spaced a) (Json.spaced b)

end Problem

/-! ## Collecting problems -/

/-- A value, or everything that is wrong with it. -/
inductive Checked (α : Type) where
  /-- The value. -/
  | ok (value : α)
  /-- What is wrong with it. -/
  | refused (problems : List Problem)
  deriving Repr, DecidableEq

namespace Checked

variable {α β : Type}

/-- A function and its argument, with everything that is wrong with either. -/
def combine (function : Checked (α → β)) (argument : Checked α) : Checked β :=
  match function, argument with
  | ok f, ok a => ok (f a)
  | ok _, refused problems => refused problems
  | refused problems, ok _ => refused problems
  | refused problems, refused more => refused (problems ++ more)

instance : Applicative Checked where
  pure := ok
  seq function argument := combine function (argument ())

/-- A refusal for one cause. -/
def refuse (cause : Problem.Cause) : Checked α := refused [⟨[], cause⟩]

/-- A value, or the cause for refusing it. -/
def ofCause : Except Problem.Cause α → Checked α
  | .ok a => ok a
  | .error cause => refuse cause

/-- What depends on an accepted value. -/
def andThen (outcome : Checked α) (next : α → Checked β) : Checked β :=
  match outcome with
  | ok a => next a
  | refused problems => refused problems

/-- The outcome for a value, seen from further outside. -/
def within (place : Place) : Checked α → Checked α
  | ok a => ok a
  | refused problems => refused (problems.map (Problem.within place))

theorem combine_eq_ok_iff {function : Checked (α → β)} {argument : Checked α} {b : β} :
    combine function argument = ok b ↔ ∃ f a, function = ok f ∧ argument = ok a ∧ f a = b := by
  cases function <;> cases argument <;> simp [combine]

/-- The outcomes for the items of a list, each at its index, counted from a first one. -/
def eachFrom (check : Value → Checked α) : Nat → List Value → Checked (List α)
  | _, [] => ok []
  | first, item :: items =>
    combine (combine (ok List.cons) (within (.index first) (check item)))
      (eachFrom check (first + 1) items)

/-- The outcomes for the items of a list. -/
def each (check : Value → Checked α) (items : List Value) : Checked (List α) :=
  eachFrom check 0 items

end Checked

end FormLetter
