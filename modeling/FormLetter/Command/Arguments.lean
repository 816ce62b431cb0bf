import FormLetter.Log.Basic
import FormLetter.Text.Digit

/-!
# Arguments of the command line

Options may stand before and behind operands, and a long option may be shortened as long as it stays
clear which one is meant. Its value follows as the next argument, behind an equals sign, or, for a
short option, at once. Short options without a value may be put together. Everything behind `--` is
an operand.

* `OptionKey`: the options, with their names.
* `Argument.ofText`: what an argument is by its form.
* `OptionKey.expand`: the options in an argument that goes on behind the first of them.
* `readArguments`: the options and the operands of a command.
-/

namespace FormLetter

/-! ## Options -/

/-- An option. -/
inductive OptionKey where
  /-- Shows how the program is used. -/
  | help
  /-- Shows the version. -/
  | version
  /-- The least severity that is logged. -/
  | logLevel
  /-- The configuration file. -/
  | config
  /-- The output is JSON. -/
  | json
  /-- The file with the fields. -/
  | fields
  /-- The file with the mapping. -/
  | mapping
  /-- The file with the system values. -/
  | system
  /-- The directory for the output. -/
  | out
  /-- The first problem ends the merge. -/
  | strict
  deriving Repr, DecidableEq

namespace OptionKey

/-- The long name of an option. -/
def long : OptionKey → String
  | help => "--help"
  | version => "--version"
  | logLevel => "--log-level"
  | config => "--config"
  | json => "--json"
  | fields => "--fields"
  | mapping => "--mapping"
  | system => "--system"
  | out => "--out"
  | strict => "--strict"

/-- The letter of an option that has a short name. -/
def letter? : OptionKey → Option Char
  | help => some 'h'
  | config => some 'c'
  | fields => some 'f'
  | mapping => some 'm'
  | system => some 's'
  | out => some 'o'
  | version | logLevel | json | strict => none

/-- Whether an option has a value. -/
def takesValue : OptionKey → Bool
  | help | version | json | strict => false
  | logLevel | config | fields | mapping | system | out => true

/-- The option with a letter. -/
def ofLetter? (keys : List OptionKey) (letter : Char) : Option OptionKey :=
  keys.find? fun key => key.letter? = some letter

/-- The option with a name. -/
def ofName? (keys : List OptionKey) : Text → Option OptionKey
  | ['-', letter] => ofLetter? keys letter
  | name => keys.find? fun key => key.long.toList = name

end OptionKey

/-! ## Faults -/

/-- What is wrong with arguments. -/
inductive UsageFault where
  /-- A shortened option may mean several. -/
  | ambiguous (argument : Text)
  /-- An option has no value. -/
  | valueMissing (key : OptionKey)
  /-- An option is given a value and has none. -/
  | valueUnexpected (key : OptionKey)
  /-- The value of an option, or the name of a command, is none of those that there are. -/
  | invalidChoice (value : Text)
  /-- Something required is missing. -/
  | missing
  /-- There are arguments that mean nothing. -/
  | unrecognized (arguments : List Text)
  deriving Repr, DecidableEq

/-- Why arguments are not read to their end. -/
inductive Interruption where
  /-- The use of the program is asked for. -/
  | help
  /-- The version is asked for. -/
  | version
  /-- The arguments cannot be used. -/
  | fault (fault : UsageFault)
  deriving Repr, DecidableEq

/-! ## Forms of arguments -/

/-- An argument by its form. -/
inductive Argument where
  /-- An operand. -/
  | operand (text : Text)
  /-- The mark behind which there are operands only. -/
  | separator
  /-- An option. -/
  | option (key : OptionKey)
  /-- An option with more behind its name; the flag tells a letter from a long name. -/
  | extended (key : OptionKey) (byLetter : Bool) (more : Text)
  /-- Something in the form of an option that is none. -/
  | unknown (text : Text)
  deriving Repr, DecidableEq

/-- Whether a text is written as a negative number. -/
def isNegativeNumber (text : Text) : Bool :=
  match Text.after? ['-'] text with
  | none => false
  | some digits =>
    let digits := if digits.getLast? = some '\n' then digits.dropLast else digits
    match Text.cutAt '.' digits with
    | (whole, none) => !whole.isEmpty && whole.all Text.isDigit
    | (whole, some part) => whole.all Text.isDigit && !part.isEmpty && part.all Text.isDigit

namespace Argument

/-- The options that a shortened long name may mean, with what stands behind its equals sign. -/
def longReadings (keys : List OptionKey) (text : Text) : List Argument :=
  let (name, more) := Text.cutAt '=' text
  (keys.filter fun key => name.isPrefixOf key.long.toList).map fun key =>
    match more with
    | some more => extended key false more
    | none => option key

/-- The options that an argument may mean whose name it does not give in full. -/
def readings (keys : List OptionKey) : Text → List Argument
  | '-' :: '-' :: rest => longReadings keys ('-' :: '-' :: rest)
  | '-' :: letter :: more => ((OptionKey.ofLetter? keys letter).map (extended · true more)).toList
  | _ => []

/-- The option of an argument in which an equals sign follows the full name. -/
def assigned? (keys : List OptionKey) (text : Text) : Option Argument :=
  match Text.cutAt '=' text with
  | (name, some value) =>
    (OptionKey.ofName? keys name).map fun key => extended key (name.length = 2) value
  | (_, none) => none

/-- An argument that starts with a hyphen and goes on. -/
def ofHyphened (keys : List OptionKey) (text : Text) : Except UsageFault Argument :=
  match OptionKey.ofName? keys text, assigned? keys text, readings keys text with
  | some key, _, _ => .ok (option key)
  | none, some argument, _ => .ok argument
  | none, none, [argument] => .ok argument
  | none, none, _ :: _ :: _ => .error (.ambiguous text)
  | none, none, [] =>
    if isNegativeNumber text || text.contains ' ' then .ok (operand text) else .ok (unknown text)

/-- What an argument is by its form. -/
def ofText (keys : List OptionKey) : Text → Except UsageFault Argument
  | '-' :: c :: rest => ofHyphened keys ('-' :: c :: rest)
  | text => .ok (operand text)

/-- What arguments are by their form. -/
def classify (keys : List OptionKey) : List Text → Except UsageFault (List Argument)
  | [] => .ok []
  | text :: texts =>
    if text = ['-', '-'] then .ok (separator :: texts.map operand)
    else do
      let argument ← ofText keys text
      return argument :: (← classify keys texts)

/-- Whether an argument is an operand. -/
def isOperand : Argument → Bool
  | operand _ => true
  | _ => false

/-- Whether an argument is an operand or the mark in front of operands. -/
def isLoose : Argument → Bool
  | operand _ | separator => true
  | _ => false

/-- The operands among arguments. -/
def operands (arguments : List Argument) : List Text :=
  arguments.filterMap fun argument =>
    match argument with
    | operand text => some text
    | _ => none

/-- An argument that means nothing, as it is written. -/
def looseText : Argument → Text
  | operand text | unknown text => text
  | separator => ['-', '-']
  | option key | extended key .. => key.long.toList

/-- The arguments up to the next option, and the others. -/
def takeOperands (arguments : List Argument) : List Argument × List Argument :=
  (arguments.takeWhile isLoose, arguments.dropWhile isLoose)

end Argument

/-! ## Reading -/

/-- An option with its value, which is empty for an option that has none. -/
abbrev Given := OptionKey × Text

/-- The options in an argument that goes on behind the first of them. Behind a long name, or behind
the letter of an option with a value, stands the value; behind another letter stand more letters. An
option at the end that is still without value is given apart. -/
def OptionKey.expand (keys : List OptionKey) (key : OptionKey) (byLetter : Bool) :
    Text → Except UsageFault (List Given × Option OptionKey)
  | [] => if key.takesValue then .ok ([(key, [])], none) else .error (.valueUnexpected key)
  | letter :: more =>
    if key.takesValue then .ok ([(key, letter :: more)], none)
    else
      match if byLetter then ofLetter? keys letter else none with
      | none => .error (.valueUnexpected key)
      | some next =>
        if more.isEmpty then .ok ([(key, [])], some next)
        else do
          let (given, last) ← expand keys next true more
          return ((key, []) :: given, last)

/-- The reading ends with an option that asks for a text of the program, or whose value is none of
those that it may have. -/
def interruption? : Given → Option Interruption
  | (.help, _) => some .help
  | (.version, _) => some .version
  | (.logLevel, level) =>
    if (Severity.ofLabel? (String.ofList level)).isSome then none
    else some (.fault (.invalidChoice level))
  | _ => none

/-- The options and the operands of a command. -/
structure Reading where
  /-- The options, in order. -/
  given : List Given := []
  /-- The operands. -/
  operands : List Text := []
  /-- What means nothing. -/
  extras : List Text := []
  deriving Repr, DecidableEq

namespace Reading

/-- The value of an option; of an option given twice the last value counts. -/
def value? (reading : Reading) (key : OptionKey) : Option Text :=
  (reading.given.reverse.find? fun given => given.1 = key).map (·.2)

/-- Whether an option is given. -/
def has (reading : Reading) (key : OptionKey) : Bool := (reading.value? key).isSome

/-- Adds options, unless one of them interrupts the reading. -/
def add (given : List Given) (reading : Reading) : Except Interruption Reading :=
  match given.findSome? interruption? with
  | some interruption => .error interruption
  | none => .ok { reading with given := reading.given ++ given }

/-- Adds arguments that are no options. The first of them that hold an operand are the operands of
the command; later ones mean nothing. -/
def addLoose (wantsOperands : Bool) (loose : List Argument) (reading : Reading) : Reading :=
  if wantsOperands && reading.operands.isEmpty && loose.any Argument.isOperand then
    { reading with operands := Argument.operands loose }
  else { reading with extras := reading.extras ++ loose.map Argument.looseText }

end Reading

/-- Adds an option that may still need a value, and gives the arguments that are left. -/
def addPending (given : List Given) (pending : Option OptionKey) (rest : List Argument)
    (reading : Reading) : Except Interruption (Reading × List Argument) :=
  match pending with
  | none => return (← reading.add given, rest)
  | some key =>
    if key.takesValue then
      match rest with
      | .operand value :: rest => return (← reading.add (given ++ [(key, value)]), rest)
      | _ => .error (.fault (.valueMissing key))
    else return (← reading.add (given ++ [(key, [])]), rest)

/-- The effect of the first argument, and the arguments that are left. -/
def readFirst (keys : List OptionKey) (wantsOperands : Bool) (first : Argument)
    (rest : List Argument) (reading : Reading) : Except Interruption (Reading × List Argument) :=
  match first with
  | .option key => addPending [] (some key) rest reading
  | .extended key byLetter more =>
    match key.expand keys byLetter more with
    | .error fault => .error (.fault fault)
    | .ok (given, pending) => addPending given pending rest reading
  | .unknown text => .ok ({ reading with extras := reading.extras ++ [text] }, rest)
  | .operand _ | .separator =>
    let (loose, rest) := Argument.takeOperands rest
    .ok (reading.addLoose wantsOperands (first :: loose), rest)

/-- The effect of arguments; the number of steps is bounded by the number of arguments. -/
def readSteps (keys : List OptionKey) (wantsOperands : Bool) :
    Nat → List Argument → Reading → Except Interruption Reading
  | _, [], reading => .ok reading
  | 0, _, reading => .ok reading
  | steps + 1, first :: rest, reading => do
    let (reading, rest) ← readFirst keys wantsOperands first rest reading
    readSteps keys wantsOperands steps rest reading

/-- The options and the operands among arguments. -/
def readArguments (keys : List OptionKey) (wantsOperands : Bool) (texts : List Text) :
    Except Interruption Reading :=
  match Argument.classify keys texts with
  | .error fault => .error (.fault fault)
  | .ok arguments => readSteps keys wantsOperands arguments.length arguments {}

end FormLetter
