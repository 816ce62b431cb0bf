import FormLetter.Number.Decimal
import FormLetter.OrderedMap
import FormLetter.Text.Quoted

/-!
# Data values

What a field, a system value or a configuration file may hold before it is used as text.

* `Value`: the values.
* `Value.text`: a value as text; a text is its own.
* `Value.shown`: a value inside a list or a mapping, where texts stand between quotes.
* `Value.isFilled`: whether a value says anything.
* `Value.typeName`: the name of the kind of a value in messages.
-/

namespace FormLetter

/-- A data value. -/
inductive Value where
  /-- No value. -/
  | null
  /-- A truth value. -/
  | bool (b : Bool)
  /-- An integer. -/
  | int (n : Int)
  /-- A number with a point or an exponent. -/
  | float (x : Binary64)
  /-- A text. -/
  | text (s : Text)
  /-- Uninterpreted bytes. -/
  | bytes (content : List UInt8)
  /-- A calendar day. -/
  | date (year month day : Nat)
  /-- A point in time: year, month, day, hour, minute, second and microsecond, with the offset from
  universal time in seconds if it is known. -/
  | moment (fields : List Nat) (offset : Option Int)
  /-- A list. -/
  | list (items : List Value)
  /-- A list of pairs. -/
  | pairs (entries : List (Value × Value))
  /-- A set, in the order of insertion. -/
  | set (items : List Value)
  /-- A mapping, in the order of insertion. -/
  | map (entries : List (Value × Value))
  deriving Repr, Inhabited

namespace Value

/-- A mapping with texts as keys. -/
def ofEntries (entries : List (Text × Value)) : Value :=
  map (entries.map fun entry => (text entry.1, entry.2))

/-! ## Text -/

/-- The decimal text of an integer. -/
def intText (n : Int) : Text :=
  if n < 0 then '-' :: Text.ofNat n.natAbs else Text.ofNat n.natAbs

/-- Bytes between quotes after a `b`. -/
def bytesText (content : List UInt8) : Text :=
  let chars := content.map fun byte => Char.ofNat byte.toNat
  let quote := Text.enclosingQuote chars
  let char (c : Char) : Text :=
    if 0x7F ≤ c.toNat then '\\' :: 'x' :: Text.hexadecimal 2 c.toNat else Text.quotedChar quote c
  'b' :: quote :: chars.flatMap char ++ [quote]

/-- The fields of a point in time; the seconds and the microseconds are left out where they and all
that follow are zero. -/
def momentFields (fields : List Nat) : List Nat :=
  let kept := (fields.drop 5).reverse.dropWhile (· = 0)
  fields.take 5 ++ kept.reverse

/-- How a duration of whole seconds is shown: full days, and the seconds of the day begun. -/
def durationText (seconds : Int) : Text :=
  let field (name : String) (n : Int) : List Text :=
    if n = 0 then [] else [name.toList ++ '=' :: intText n]
  match field "days" (Int.fdiv seconds 86400) ++ field "seconds" (Int.fmod seconds 86400) with
  | [] => "datetime.timedelta(0)".toList
  | fields => "datetime.timedelta(".toList ++ Text.joinWith ", ".toList fields ++ [')']

/-- How an offset from universal time is shown. -/
def offsetText (offset : Int) : Text :=
  if offset = 0 then ", tzinfo=datetime.timezone.utc".toList
  else ", tzinfo=datetime.timezone(".toList ++ durationText offset ++ [')']

mutual

/-- A value as it stands inside another one. -/
def shown : Value → Text
  | null => "None".toList
  | bool true => "True".toList
  | bool false => "False".toList
  | int n => intText n
  | float x => x.text
  | text s => s.quoted
  | bytes content => bytesText content
  | date year month day =>
    "datetime.date(".toList ++ Text.joinWith ", ".toList ([year, month, day].map Text.ofNat) ++
      [')']
  | moment fields offset =>
    "datetime.datetime(".toList ++
      Text.joinWith ", ".toList ((momentFields fields).map Text.ofNat) ++
      (offset.map offsetText).getD [] ++ [')']
  | list items => '[' :: Text.joinWith ", ".toList (shownItems items) ++ [']']
  | pairs entries => '[' :: Text.joinWith ", ".toList (shownPairs entries) ++ [']']
  | set [] => "set()".toList
  | set (item :: items) =>
    '\x7b' :: Text.joinWith ", ".toList (item.shown :: shownItems items) ++ ['\x7d']
  | map entries => '\x7b' :: Text.joinWith ", ".toList (shownEntries entries) ++ ['\x7d']

/-- The items of a list, shown. -/
def shownItems : List Value → List Text
  | [] => []
  | item :: items => item.shown :: shownItems items

/-- The entries of a list of pairs, shown. -/
def shownPairs : List (Value × Value) → List Text
  | [] => []
  | (key, value) :: entries =>
    ('(' :: key.shown ++ ", ".toList ++ value.shown ++ [')']) :: shownPairs entries

/-- The entries of a mapping, shown. -/
def shownEntries : List (Value × Value) → List Text
  | [] => []
  | (key, value) :: entries => (key.shown ++ ": ".toList ++ value.shown) :: shownEntries entries

end

/-- A value as text. -/
def toText : Value → Text
  | text s => s
  | value => value.shown

/-! ## Kinds -/

/-- Whether a value says anything: neither null, false, zero nor empty. -/
def isFilled : Value → Bool
  | null => false
  | bool b => b
  | int n => n != 0
  | float x => !x.isZero
  | text s => !s.isEmpty
  | bytes content => !content.isEmpty
  | date .. | moment .. => true
  | list items | set items => !items.isEmpty
  | pairs entries | map entries => !entries.isEmpty

/-- The name of the kind of a value. -/
def typeName : Value → String
  | null => "NoneType"
  | bool _ => "bool"
  | int _ => "int"
  | float _ => "float"
  | text _ => "str"
  | bytes _ => "bytes"
  | date .. => "date"
  | moment .. => "datetime"
  | list _ | pairs _ => "list"
  | set _ => "set"
  | map _ => "dict"

/-! ## Look-up -/

/-- The value of a text key in a mapping. -/
def field? (key : String) : Value → Option Value
  | map entries =>
    (entries.find? fun entry =>
      match entry.1 with
      | text k => k = key.toList
      | _ => false).map (·.2)
  | _ => none

end Value

end FormLetter
