import FormLetter.Value

/-!
# Contexts

A context holds the values that a template is merged with, by key and in order.

* `Context`: the ordered map from keys to values.
* `Context.ofValues`: a context from keys and data values.
* `Context.nonEmpty`: the entries with a value.
* `Context.shown`: a context as one line.
-/

namespace FormLetter

/-- The values that a template is merged with. -/
abbrev Context := OrderedMap Text

namespace Context

/-- A data value as a context holds it; no value is empty text. -/
def contextText : Value → Text
  | .null => []
  | value => value.toText

/-- A context from keys and values that may be any data. -/
def ofValues (pairs : List (Value × Value)) : Context :=
  .ofList (pairs.map fun (key, value) => (key.toText, contextText value))

/-- The entries with a value that is not empty, in order. -/
def nonEmpty (context : Context) : List (Text × Text) :=
  context.entries.filter fun entry => entry.2 ≠ []

/-- A context as data. -/
def toValue (context : Context) : Value :=
  .ofEntries (context.entries.map fun entry => (entry.1, .text entry.2))

/-- A context as one line. -/
def shown (context : Context) : Text :=
  "MergeContext(".toList ++ context.toValue.shown ++ [')']

end Context

end FormLetter
