import FormLetter.Text.Basic

/-!
# Tags of YAML

A tag tells what a node means. A plain scalar without a tag has one by its shape.

* `Tag`: the known tags.
* `Tag.ofName`: a tag from its full name.
* `Tag.ofPlain`: the tag of a plain scalar.
-/

namespace FormLetter

namespace Yaml

/-- What a node means. -/
inductive Tag where
  | null
  | truth
  | integer
  | number
  | bytes
  | moment
  | text
  | list
  | map
  | set
  | orderedMap
  | pairs
  /-- The key whose value is merged into the mapping. -/
  | mergeKey
  /-- The key whose value stands for the mapping. -/
  | valueKey
  /-- Any other tag. -/
  | unknown
  deriving Repr, DecidableEq

namespace Tag

/-- What the full names of the known tags start with. -/
def base : String := "tag:yaml.org,2002:"

/-- The known tags with the end of their names. -/
def names : List (Tag × String) :=
  [(null, "null"), (truth, "bool"), (integer, "int"), (number, "float"), (bytes, "binary"),
    (moment, "timestamp"), (text, "str"), (list, "seq"), (map, "map"), (set, "set"),
    (orderedMap, "omap"), (pairs, "pairs"), (mergeKey, "merge"), (valueKey, "value")]

/-- The tag of a full name. -/
def ofName (name : Text) : Tag :=
  match names.find? fun entry => base.toList ++ entry.2.toList = name with
  | some (tag, _) => tag
  | none => unknown

end Tag

/-! ## Shapes of scalars -/

/-- A word in lower case, with a capital, and in upper case. -/
def spellings (word : String) : List Text :=
  let chars := word.toList
  [chars, (chars.take 1).map Char.toUpper ++ chars.drop 1, chars.map Char.toUpper]

/-- The words for true and false. -/
def truthWords : List (String × Bool) :=
  [("yes", true), ("no", false), ("true", true), ("false", false), ("on", true), ("off", false)]

/-- Whether a text is a word for true or false. -/
def isTruthWord (text : Text) : Bool :=
  truthWords.any fun word => (spellings word.1).contains text

/-- Whether a text stands for no value. -/
def isNullWord (text : Text) : Bool :=
  text.isEmpty || text = ['~'] || (spellings "null").contains text

/-- Whether a character is a digit or an underscore between digits. -/
def isGrouped (c : Char) : Bool := c.isDigit || c = '_'

/-- A text without a sign in front of it. -/
def withoutSign : Text → Text
  | '+' :: rest | '-' :: rest => rest
  | text => text

/-- Whether a text starts with a character that satisfies one test, and all others satisfy another.
-/
def startsThen (first others : Char → Bool) : Text → Bool
  | [] => false
  | c :: rest => first c && rest.all others

/-- Whether a character is a digit other than zero. -/
def isLeadingDigit (c : Char) : Bool := c.isDigit && c ≠ '0'

/-- Whether a text is a number below sixty in one or two digits. -/
def isSixtieth : Text → Bool
  | [c] => c.isDigit
  | [c, d] => '0' ≤ c && c ≤ '5' && d.isDigit
  | _ => false

/-- Whether a text is digits with groups of sixtieths behind colons. -/
def isSexagesimal (first : Char → Bool) (text : Text) : Bool :=
  match Text.splitOn ':' text with
  | whole :: group :: groups =>
    startsThen first isGrouped whole && (group :: groups).all isSixtieth
  | _ => false

/-- Whether a text without sign is an integer: decimal, or binary, octal or hexadecimal behind its
mark, or sexagesimal. -/
def isUnsignedInteger (text : Text) : Bool :=
  match text with
  | ['0'] => true
  | '0' :: 'b' :: digits => !digits.isEmpty && digits.all fun c => c = '0' || c = '1' || c = '_'
  | '0' :: 'x' :: digits =>
    !digits.isEmpty && digits.all fun c =>
      isGrouped c || ('a' ≤ c && c ≤ 'f') || ('A' ≤ c && c ≤ 'F')
  | '0' :: digits => digits.all fun c => ('0' ≤ c && c ≤ '7') || c = '_'
  | _ => startsThen isLeadingDigit isGrouped text || isSexagesimal isLeadingDigit text

/-- Whether a text is an integer. -/
def isInteger (text : Text) : Bool := isUnsignedInteger (withoutSign text)

/-- Whether a text is empty or an exponent with its sign. -/
def isExponent : Text → Bool
  | [] => true
  | mark :: sign :: digits =>
    (mark = 'e' || mark = 'E') && (sign = '-' || sign = '+') && !digits.isEmpty &&
      digits.all Char.isDigit
  | _ => false

/-- Whether a text is the fraction of a number, with an exponent if need be. -/
def isFraction (text : Text) : Bool := isExponent (text.dropWhile isGrouped)

/-- Whether a text is a number with a point, or the name of a special number. -/
def isNumber (text : Text) : Bool :=
  let unsigned := withoutSign text
  match Text.cutAt '.' unsigned with
  | (_, none) => false
  | ([], some fraction) =>
    [".inf", ".Inf", ".INF"].any (fun word => word.toList = unsigned) ||
      [".nan", ".NaN", ".NAN"].any (fun word => word.toList = text) ||
      (text.head? = some '.' && fraction.head?.any Char.isDigit && isFraction fraction)
  | (whole, some fraction) =>
    (startsThen Char.isDigit isGrouped whole && isFraction fraction) ||
      (isSexagesimal Char.isDigit whole && fraction.all isGrouped)

/-! ## Points in time -/

/-- The fields of a point in time as they are written. -/
structure MomentText where
  /-- Year, month and day. -/
  day : List Text
  /-- Hour, minute and second, if there are any. -/
  clock : List Text := []
  /-- The digits of the fraction of a second. -/
  fraction : Text := []
  /-- The sign, the hours and the minutes of the offset from universal time; without a sign the
  offset is nothing. -/
  zone : Option (Option Char × Text × Text) := none
  deriving Repr, DecidableEq

/-- Between `least` and `most` digits in front of a text, as many as there are, and what follows
them. -/
def takeDigits? (least most : Nat) (text : Text) : Option (Text × Text) :=
  let digits := (text.take most).takeWhile Char.isDigit
  if digits.length < least then none else some (digits, text.drop digits.length)

/-- What follows a character in front of a text. -/
def afterChar? (c : Char) : Text → Option Text
  | [] => none
  | d :: rest => if d = c then some rest else none

/-- Whether a character is a space or a tab. -/
def isInlineBlank (c : Char) : Bool := c = ' ' || c = '\t'

/-- The offset from universal time at the end of a text. -/
def takeZone? (text : Text) : Option (Option (Option Char × Text × Text)) :=
  match text.dropWhile isInlineBlank with
  | [] => if text.isEmpty then some none else none
  | ['Z'] => some (some (none, [], []))
  | sign :: rest => do
    if sign ≠ '+' && sign ≠ '-' then none
    else
      let (hours, rest) ← takeDigits? 1 2 rest
      match rest with
      | [] => some (some (some sign, hours, []))
      | _ =>
        let (minutes, rest) ← takeDigits? 2 2 (← afterChar? ':' rest)
        if rest.isEmpty then some (some (some sign, hours, minutes)) else none

/-- The time of day behind the mark `T` or behind blanks. -/
def takeClockText? (text : Text) : Option (List Text × Text) := do
  let rest ←
    match text with
    | 'T' :: rest | 't' :: rest => some rest
    | c :: rest => if isInlineBlank c then some (rest.dropWhile isInlineBlank) else none
    | [] => none
  let (hour, rest) ← takeDigits? 1 2 rest
  let (minute, rest) ← takeDigits? 2 2 (← afterChar? ':' rest)
  let (second, rest) ← takeDigits? 2 2 (← afterChar? ':' rest)
  some ([hour, minute, second], rest)

/-- The fields of a point in time. -/
def MomentText.read? (text : Text) : Option MomentText := do
  let (year, rest) ← takeDigits? 4 4 text
  let (month, rest) ← takeDigits? 1 2 (← afterChar? '-' rest)
  let (day, rest) ← takeDigits? 1 2 (← afterChar? '-' rest)
  let fields : MomentText := { day := [year, month, day] }
  if rest.isEmpty then some fields
  else
    let (clock, rest) ← takeClockText? rest
    let (fraction, rest) :=
      match rest with
      | '.' :: rest => (rest.takeWhile Char.isDigit, rest.dropWhile Char.isDigit)
      | _ => ([], rest)
    let zone ← takeZone? rest
    some { fields with clock, fraction, zone }

/-- Whether a plain scalar is a point in time. A day alone has two digits for its month and its day.
-/
def isMoment (text : Text) : Bool :=
  (MomentText.read? text).any fun fields => !fields.clock.isEmpty || text.length = 10

/-! ## Plain scalars -/

/-- The tag of a plain scalar. -/
def Tag.ofPlain (text : Text) : Tag :=
  if isNullWord text then .null
  else if isTruthWord text then .truth
  else if isNumber text then .number
  else if isInteger text then .integer
  else if text = "<<".toList then .mergeKey
  else if isMoment text then .moment
  else if text = ['='] then .valueKey
  else if text = ['!'] || text = ['&'] || text = ['*'] then .unknown
  else .text

end Yaml

end FormLetter
