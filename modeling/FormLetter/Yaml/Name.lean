import FormLetter.Yaml.Cursor
import FormLetter.Yaml.Token
import FormLetter.Json.Token

/-!
# Names in YAML

Names of nodes, tags and directives, in front of a text.

* `takeNodeName?`: the name behind the mark of an anchor or an alias.
* `takeTag?`: a tag.
* `takeDirective?`: a directive with the rest of its line.
-/

namespace FormLetter

namespace Yaml

/-- Whether a character may stand in a name. -/
def isNameChar (c : Char) : Bool := c.isAlphanum || c = '-' || c = '_'

/-- The name in front of a text, and what follows it; it may be empty. -/
def takeName (text : Text) : Text × Text :=
  (text.takeWhile isNameChar, text.dropWhile isNameChar)

/-- Whether the name of a node may end in front of a text. -/
def endsNodeName (text : Text) : Bool :=
  atGap text || text.head?.any fun c => "?:,]\x7d%@`".toList.contains c

/-- The name of a node, and what follows it. -/
def takeNodeName? (text : Text) : Option (Text × Text) :=
  let (name, rest) := takeName text
  if name.isEmpty || !endsNodeName rest then none else some (name, rest)

/-! ## Tags -/

/-- Whether a character may stand in a tag. -/
def isTagChar (c : Char) : Bool :=
  c.isAlphanum || "-;/?:@&=+$,_.!~*'()[]".toList.contains c

/-- The bytes written by escapes in front of a text, and what follows them. -/
def takeTagBytes? : Text → Option (List UInt8 × Text)
  | '%' :: a :: b :: rest => do
    let byte ← Json.hexValue? [a, b]
    let (bytes, tail) ← takeTagBytes? rest
    some (byte.toUInt8 :: bytes, tail)
  | '%' :: _ => none
  | text => some ([], text)

/-- The content of a tag in front of a text, and what follows it. Escapes stand for the bytes of
encoded characters. -/
def takeTagContent? (text : Text) : Option (Text × Text) :=
  match text with
  | [] => some ([], [])
  | c :: rest =>
    if c = '%' then
      match takeTagBytes? (c :: rest) with
      | none => none
      | some (bytes, after) =>
        if _h : after.length < (c :: rest).length then do
          let chars ← String.fromUTF8? ⟨bytes.toArray⟩
          let (content, tail) ← takeTagContent? after
          some (chars.toList ++ content, tail)
        else none
    else if isTagChar c then (takeTagContent? rest).map fun (content, tail) => (c :: content, tail)
    else some ([], c :: rest)
  termination_by text.length
  decreasing_by
    · exact _h
    · simp

/-- The content of a tag, which must not be empty. -/
def takeTagText? (text : Text) : Option (Text × Text) :=
  match takeTagContent? text with
  | some ([], _) | none => none
  | some found => some found

/-- The handle of a tag, between exclamation marks, and what follows it. A handle with a space
behind its first mark is that mark alone. -/
def takeHandle? : Text → Option (Text × Text)
  | '!' :: rest =>
    if rest.head? = some ' ' then some (['!'], rest)
    else
      match takeName rest with
      | (name, '!' :: tail) => some ('!' :: name ++ ['!'], tail)
      | _ => none
  | _ => none

/-- A tag behind its first exclamation mark, and what follows it. -/
def takeTag? (text : Text) : Option (TagName × Text) := do
  let (tag, rest) ←
    match text with
    | '<' :: rest => do
      let (suffix, rest) ← takeTagText? rest
      match rest with
      | '>' :: rest => some (⟨none, suffix⟩, rest)
      | _ => none
    | _ =>
      if atGap text then some (⟨none, ['!']⟩, text)
      else if (text.takeWhile fun c => !(c = ' ' || isBreak c)).contains '!' then do
        let (handle, rest) ← takeHandle? ('!' :: text)
        let (suffix, rest) ← takeTagText? rest
        some (⟨some handle, suffix⟩, rest)
      else do
        let (suffix, rest) ← takeTagText? text
        some (⟨some ['!'], suffix⟩, rest)
  if atSpace rest then some (tag, rest) else none

/-! ## Directives -/

/-- The digits in front of a text as a number, and what follows them. -/
def takeNumber? (text : Text) : Option (Nat × Text) :=
  match text.span Char.isDigit with
  | ([], _) => none
  | (digits, rest) => some (Text.digitsNumber digits, rest)

/-- A text without the spaces in front of it. -/
def afterSpaces (text : Text) : Text := text.dropWhile (· = ' ')

/-- The version in a directive, and what follows it. -/
def takeVersion? (text : Text) : Option (Directive × Text) := do
  let (major, rest) ← takeNumber? (afterSpaces text)
  match rest with
  | '.' :: rest =>
    let (_, rest) ← takeNumber? rest
    if atSpace rest then some (.version major, rest) else none
  | _ => none

/-- A handle and its meaning in a directive, and what follows them. -/
def takeHandleMeaning? (text : Text) : Option (Directive × Text) := do
  let (handle, rest) ← takeHandle? (afterSpaces text)
  if rest.head? ≠ some ' ' then none
  else
    let (meaning, rest) ← takeTagText? (afterSpaces rest)
    if atSpace rest then some (.handle handle meaning, rest) else none

/-- A directive behind its mark, and what follows it in its line. -/
def takeDirective? (text : Text) : Option (Directive × Text) :=
  let (name, rest) := takeName text
  if name.isEmpty || !atSpace rest then none
  else if name = "YAML".toList then takeVersion? rest
  else if name = "TAG".toList then takeHandleMeaning? rest
  else some (.other, rest.dropWhile fun c => !isBreak c)

end Yaml

end FormLetter
