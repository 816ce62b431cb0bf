import FormLetter.Modifier.Basic
import FormLetter.Text.Blank
import FormLetter.Text.Casing

/-!
# Reading modifiers

The modifiers of a tag stand behind one another, each after a bar. A modifier is a name and, after
a colon, its arguments; an argument stands between two equal quotes or bare.

* `splitUnquoted`: the segments of a chain; a bar between quotes does not cut.
* `Modifier.parse`: one modifier from its segment, or the fault in it.

Main statement: `joinWith_splitUnquoted` (cutting loses nothing).
-/

namespace FormLetter

open Text

/-! ## Segments -/

/-- The quote that is open behind a character, given the one that is open in front of it. -/
def quoteAfter (quote : Option Char) (c : Char) : Option Char :=
  match quote with
  | some q => if c = q then none else some q
  | none => if c = '"' || c = '\'' then some c else none

/-- Cuts at a separator that stands outside quotes; `quote` is the quote that is open, if any. -/
def splitUnquotedFrom (separator : Char) : Option Char → Text → List Text
  | _, [] => [[]]
  | quote, c :: rest =>
    if c = separator && (quoteAfter quote c).isNone && quote.isNone then
      [] :: splitUnquotedFrom separator none rest
    else
      match splitUnquotedFrom separator (quoteAfter quote c) rest with
      | [] => [[c]]
      | piece :: pieces => (c :: piece) :: pieces

/-- Cuts a text at a separator outside quotes; a quote that is never closed holds to the end. -/
def splitUnquoted (separator : Char) (text : Text) : List Text :=
  splitUnquotedFrom separator none text

theorem splitUnquotedFrom_ne_nil (separator : Char) (quote : Option Char) (text : Text) :
    splitUnquotedFrom separator quote text ≠ [] := by
  cases text with
  | nil => simp [splitUnquotedFrom]
  | cons c rest =>
    simp only [splitUnquotedFrom]
    split
    · simp
    · split <;> simp

theorem joinWith_splitUnquotedFrom (separator : Char) (quote : Option Char) (text : Text) :
    joinWith [separator] (splitUnquotedFrom separator quote text) = text := by
  induction text generalizing quote with
  | nil => rfl
  | cons c rest ih =>
    simp only [splitUnquotedFrom]
    split
    · rename_i h
      simp only [Bool.and_eq_true, decide_eq_true_eq] at h
      rw [joinWith_cons _ _ (splitUnquotedFrom_ne_nil _ _ _), ih, h.1.1]
      rfl
    · split
      · rename_i h
        exact absurd h (splitUnquotedFrom_ne_nil _ _ _)
      · rename_i piece pieces h
        have := ih (quoteAfter quote c)
        rw [h] at this
        cases pieces with
        | nil => simpa [joinWith] using this
        | cons => simpa [joinWith] using this

/-- Joining the segments with the separator gives the text back. -/
theorem joinWith_splitUnquoted (separator : Char) (text : Text) :
    joinWith [separator] (splitUnquoted separator text) = text :=
  joinWith_splitUnquotedFrom separator none text

/-! ## Arguments -/

/-- What is wrong with the text of a modifier. -/
inductive Modifier.ParseFault where
  /-- No modifier has this name. -/
  | unknown (name : Text)
  /-- The modifier takes no arguments and was given some. -/
  | unexpected (kind : Modifier.Kind)
  /-- The modifier was given no arguments. -/
  | missing (kind : Modifier.Kind)
  /-- The only argument is not closed, or text follows it. -/
  | malformed (kind : Modifier.Kind)
  /-- The only argument is empty. -/
  | emptyArgument (kind : Modifier.Kind)
  /-- There are not two arguments with a colon between them. -/
  | notTwo (kind : Modifier.Kind)
  /-- The second argument is not closed, or text follows it. -/
  | malformedSecond (kind : Modifier.Kind)
  /-- The first of two arguments is empty. -/
  | emptySought (kind : Modifier.Kind)
  deriving Repr, DecidableEq

/-- The wording of a fault. -/
def Modifier.ParseFault.message : Modifier.ParseFault → String
  | .unknown name => s!"unknown modifier '{String.ofList name}'"
  | .unexpected kind => s!"'{kind.name}' takes no arguments"
  | .missing kind => s!"'{kind.name}' needs {kind.arity} argument(s)"
  | .malformed kind => s!"malformed argument for '{kind.name}'"
  | .emptyArgument kind => s!"empty argument for '{kind.name}'"
  | .notTwo kind => s!"'{kind.name}' needs two colon-separated arguments"
  | .malformedSecond kind => s!"malformed second argument for '{kind.name}'"
  | .emptySought kind => s!"empty search argument for '{kind.name}'"

/-- A quoted argument in front of the text and what follows its closing quote. `none` stands for a
text that starts with no quote, `some none` for a quote that is not closed. -/
def takeQuoted? : Text → Option (Option (Text × Text))
  | [] => none
  | c :: rest =>
    if c = '"' || c = '\'' then
      match cutAt c rest with
      | (argument, some rest) => some (some (argument, rest))
      | (_, none) => some none
    else none

/-- The argument that takes up the whole text: quoted with only blanks behind it, or bare. -/
def takeLast? (text : Text) : Option Text :=
  match takeQuoted? text with
  | some (some (argument, rest)) => if isAllBlank rest then some argument else none
  | some none => none
  | none => some text

/-- The argument up to a colon and the text behind that colon. A quoted argument has to be followed
by the colon at once. -/
def takeFirst? (text : Text) : Option (Text × Text) :=
  match takeQuoted? text with
  | some (some (argument, ':' :: rest)) => some (argument, rest)
  | some _ => none
  | none =>
    match cutAt ':' text with
    | (argument, some rest) => some (argument, rest)
    | (_, none) => none

/-- The arguments of a modifier that takes one, from the text behind the first colon. -/
def Modifier.parseOne (kind : Kind) (build : Text → Modifier) (text : Text) :
    Except ParseFault Modifier :=
  match takeLast? text with
  | none => .error (.malformed kind)
  | some [] => .error (.emptyArgument kind)
  | some argument => .ok (build argument)

/-- The arguments of a modifier that takes two, from the text behind the first colon. -/
def Modifier.parseTwo (kind : Kind) (build : Text → Text → Modifier) (text : Text) :
    Except ParseFault Modifier :=
  match takeFirst? text with
  | none => .error (.notTwo kind)
  | some (first, rest) =>
    match takeLast? rest with
    | none => .error (.malformedSecond kind)
    | some second => if first = [] then .error (.emptySought kind) else .ok (build first second)

/-- A modifier from the text of its segment. -/
def Modifier.parse (text : Text) : Except ParseFault Modifier :=
  let (name, arguments) := cutAt ':' text
  let name := Text.lower (strip name)
  let bare (kind : Kind) (modifier : Modifier) : Except ParseFault Modifier :=
    if arguments.isSome then .error (.unexpected kind) else .ok modifier
  let given (kind : Kind) (parse : Text → Except ParseFault Modifier) :
      Except ParseFault Modifier :=
    match arguments with
    | none => .error (.missing kind)
    | some arguments => parse arguments
  match Kind.ofName? name with
  | none => .error (.unknown name)
  | some .upper => bare .upper .upper
  | some .lower => bare .lower .lower
  | some .ucwords => bare .ucwords .ucwords
  | some .ucfirst => bare .ucfirst .ucfirst
  | some .phoneFormat => given .phoneFormat (parseOne .phoneFormat .phoneFormat)
  | some .dateFormat => given .dateFormat (parseOne .dateFormat .dateFormat)
  | some .replace => given .replace (parseTwo .replace .replace)

end FormLetter
