import FormLetter.Json.Token
import FormLetter.Yaml.Cursor
import FormLetter.Yaml.Fault

/-!
# Quoted scalars of YAML

Blanks between quotes fold at a line break: a single break becomes a space, and of several breaks
all but the first remain. Between single quotes a doubled quote stands for one; between double
quotes the backslash starts an escape, also of a line break.

* `takeBreaks?`: the line breaks in front of a text.
* `foldGap?`: the blanks in front of a text, folded.
* `takeSingle?`, `takeDouble`: the content up to the closing quote, and what follows it.
-/

namespace FormLetter

namespace Yaml

/-! ## Folding -/

/-- The line breaks in front of a text, with blanks between them, and what follows them. A marker of
a document's start or end must not stand at the start of any of the lines. -/
def takeBreaks? (text : Text) : Option (Text × Text) :=
  if startsMarker text then none
  else
    match _h : text.dropWhile isSpaceOrTab with
    | [] => some ([], [])
    | c :: rest =>
      if isBreak c then (takeBreaks? rest).map fun (breaks, tail) => (breakChar c :: breaks, tail)
      else some ([], c :: rest)
  termination_by text.length
  decreasing_by
    have := (List.dropWhile_suffix isSpaceOrTab (l := text)).length_le
    simp only [_h, List.length_cons] at this
    omega

/-- What a line break and the breaks behind it fold to. -/
def foldBreaks (first : Char) (breaks : Text) : Text :=
  if breakChar first ≠ '\n' then breakChar first :: breaks
  else if breaks.isEmpty then [' '] else breaks

/-- The blanks in front of a text, folded, and what follows them. The text must not end there. -/
def foldGap? (text : Text) : Option (Text × Text) :=
  let (blanks, rest) := text.span isSpaceOrTab
  match rest with
  | [] => none
  | c :: tail =>
    if isBreak c then (takeBreaks? tail).map fun (breaks, after) => (foldBreaks c breaks, after)
    else some (blanks, rest)

/-! ## Single quotes -/

/-- The content up to the closing single quote, and what follows it. -/
def takeSingle? (text : Text) : Option (Text × Text) :=
  match text with
  | [] => none
  | c :: rest =>
    if isGap c then
      match foldGap? (c :: rest) with
      | none => none
      | some (gap, after) =>
        if _h : after.length < (c :: rest).length then
          (takeSingle? after).map fun (content, tail) => (gap ++ content, tail)
        else none
    else if c = '\'' then
      match rest with
      | d :: tail =>
        if d = '\'' then (takeSingle? tail).map fun (content, tail) => ('\'' :: content, tail)
        else some ([], rest)
      | [] => some ([], rest)
    else (takeSingle? rest).map fun (content, tail) => (c :: content, tail)
  termination_by text.length
  decreasing_by all_goals (simp only [List.length_cons] at *; omega)

/-! ## Double quotes -/

/-- The character of an escape of one letter. -/
def escaped? : Char → Option Char
  | '0' => some '\x00'
  | 'a' => some '\x07'
  | 'b' => some '\x08'
  | 't' | '\t' => some '\t'
  | 'n' => some '\n'
  | 'v' => some '\x0b'
  | 'f' => some '\x0c'
  | 'r' => some '\r'
  | 'e' => some '\x1b'
  | ' ' => some ' '
  | '"' => some '"'
  | '\\' => some '\\'
  | '/' => some '/'
  | 'N' => some '\u0085'
  | '_' => some '\u00a0'
  | 'L' => some '\u2028'
  | 'P' => some '\u2029'
  | _ => none

/-- The number of hexadecimal digits behind the letter of an escape. -/
def escapeWidth? : Char → Option Nat
  | 'x' => some 2
  | 'u' => some 4
  | 'U' => some 8
  | _ => none

/-- The character with a code point. -/
def charOf (code : Nat) : Except Fault Char :=
  if 0x110000 ≤ code then .error (.noCharacter code) else .ok (Text.ofCodePoint code)

/-- What an escape stands for, and what follows it; the backslash is already read. -/
def takeEscape (text : Text) : Except Fault (Text × Text) :=
  match text with
  | [] => .error .malformed
  | c :: rest =>
    match escaped? c, escapeWidth? c with
    | some char, _ => .ok ([char], rest)
    | none, some width =>
      let digits := rest.take width
      match Json.hexValue? digits with
      | some code =>
        if digits.length < width then .error .malformed
        else (charOf code).map fun char => ([char], rest.drop width)
      | none => .error .malformed
    | none, none =>
      if isBreak c then
        match takeBreaks? rest with
        | some found => .ok found
        | none => .error .malformed
      else .error .malformed

/-- The content up to the closing double quote, and what follows it. -/
def takeDouble (text : Text) : Except Fault (Text × Text) :=
  match text with
  | [] => .error .malformed
  | c :: rest =>
    if isGap c then
      match foldGap? (c :: rest) with
      | none => .error .malformed
      | some (gap, after) =>
        if _h : after.length < (c :: rest).length then
          (takeDouble after).map fun (content, tail) => (gap ++ content, tail)
        else .error .malformed
    else if c = '"' then .ok ([], rest)
    else if c = '\\' then
      match takeEscape rest with
      | .error fault => .error fault
      | .ok (chars, after) =>
        if _h : after.length < (c :: rest).length then
          (takeDouble after).map fun (content, tail) => (chars ++ content, tail)
        else .error .malformed
    else (takeDouble rest).map fun (content, tail) => (c :: content, tail)
  termination_by text.length
  decreasing_by all_goals (simp only [List.length_cons] at *; omega)

end Yaml

end FormLetter
