/-!
# Text

A text is the list of its characters: every length, offset and cut counts code points.

* `Text.occursIn`: whether a text occurs inside another.
* `Text.replaceAll`: every occurrence of a non-empty text, found from the left without overlap.
* `Text.splitOn`, `Text.joinWith`: cutting at a character and joining with a separator.
* `Text.isWordChar`: the characters of identifiers, `A`–`Z`, `a`–`z`, `0`–`9` and `_`.

Main statements: `occursIn_iff` (occurrence is the infix relation), `joinWith_splitOn` (cutting
loses nothing).
-/

namespace FormLetter

/-- A text as the list of its characters. -/
abbrev Text := List Char

namespace Text

/-! ## Searching -/

/-- Whether `sought` occurs in the text as a contiguous piece. -/
def occursIn (sought : Text) : Text → Bool
  | [] => sought.isEmpty
  | c :: rest => sought.isPrefixOf (c :: rest) || occursIn sought rest

theorem occursIn_iff {sought text : Text} : occursIn sought text = true ↔ sought <:+: text := by
  induction text with
  | nil => simp [occursIn]
  | cons c rest ih => simp [occursIn, ih, List.infix_cons_iff]

/-- What follows `front` in the text, if the text starts with it. -/
def after? : Text → Text → Option Text
  | [], text => some text
  | _ :: _, [] => none
  | c :: front, d :: text => if c = d then after? front text else none

theorem after?_eq_some_iff {front text rest : Text} :
    after? front text = some rest ↔ text = front ++ rest := by
  induction front generalizing text with
  | nil => simp [after?, eq_comm]
  | cons c front ih =>
    cases text with
    | nil => simp [after?]
    | cons d text =>
      by_cases h : c = d
      · simp [after?, h, ih]
      · simp [after?, h, Ne.symm h]

/-! ## Replacing -/

/-- Every occurrence of `sought`, found from the left and without overlap, becomes `new`. Nothing is
replaced where `sought` is empty. -/
def replaceAll (sought new : Text) : Text → Text
  | [] => []
  | c :: rest =>
    match sought with
    | [] => c :: rest
    | d :: more =>
      match _h : after? (d :: more) (c :: rest) with
      | some tail => new ++ replaceAll (d :: more) new tail
      | none => c :: replaceAll (d :: more) new rest
  termination_by text => text.length
  decreasing_by
    · have := congrArg List.length (after?_eq_some_iff.1 _h)
      simp only [List.length_cons, List.length_append] at this
      simp only [List.length_cons]
      omega
    · simp

/-- The replacements of a table, one after the other over the whole text. -/
def replaceEach (table : List (Text × Text)) (text : Text) : Text :=
  table.foldl (fun t entry => replaceAll entry.1 entry.2 t) text

/-! ## Cutting and joining -/

/-- The pieces between the occurrences of a separator character; always at least one. -/
def splitOn (separator : Char) : Text → List Text
  | [] => [[]]
  | c :: rest =>
    if c = separator then [] :: splitOn separator rest
    else
      match splitOn separator rest with
      | [] => [[c]]
      | piece :: pieces => (c :: piece) :: pieces

/-- The pieces one after the other with `separator` between them. -/
def joinWith (separator : Text) : List Text → Text
  | [] => []
  | [piece] => piece
  | piece :: pieces => piece ++ separator ++ joinWith separator pieces

theorem splitOn_ne_nil (separator : Char) (text : Text) : splitOn separator text ≠ [] := by
  cases text with
  | nil => simp [splitOn]
  | cons c rest =>
    simp only [splitOn]
    split
    · simp
    · split <;> simp

theorem joinWith_cons (separator piece : Text) {pieces : List Text} (h : pieces ≠ []) :
    joinWith separator (piece :: pieces) = piece ++ separator ++ joinWith separator pieces := by
  cases pieces with
  | nil => exact absurd rfl h
  | cons => rfl

/-- Joining the pieces with the separator gives the text back. -/
theorem joinWith_splitOn (separator : Char) (text : Text) :
    joinWith [separator] (splitOn separator text) = text := by
  induction text with
  | nil => rfl
  | cons c rest ih =>
    by_cases h : c = separator
    · simp [splitOn, h, joinWith_cons _ _ (splitOn_ne_nil _ _), ih]
    · rcases hs : splitOn separator rest with _ | ⟨piece, pieces⟩
      · exact absurd hs (splitOn_ne_nil _ _)
      · cases pieces with
        | nil => simp_all [splitOn, joinWith]
        | cons => simp_all [splitOn, joinWith]

/-- The text before the first separator and, if there is one, the text after it. -/
def cutAt (separator : Char) : Text → Text × Option Text
  | [] => ([], none)
  | c :: rest =>
    if c = separator then ([], some rest)
    else
      let (head, tail) := cutAt separator rest
      (c :: head, tail)

theorem cutAt_eq_some {separator : Char} {text head tail : Text}
    (h : cutAt separator text = (head, some tail)) : text = head ++ separator :: tail := by
  induction text generalizing head with
  | nil => simp [cutAt] at h
  | cons c rest ih =>
    simp only [cutAt] at h
    split at h
    · rename_i hc
      simp only [Prod.mk.injEq, Option.some.injEq] at h
      obtain ⟨rfl, rfl⟩ := h
      simp [hc]
    · simp only [Prod.mk.injEq] at h
      obtain ⟨rfl, h⟩ := h
      simp [← ih (Prod.ext rfl h)]

/-- What follows the last separator; the whole text if there is none. -/
def afterLast (separator : Char) (text : Text) : Text :=
  (text.reverse.takeWhile (· ≠ separator)).reverse

/-- Whether a text comes no later than another in the order of their characters. -/
def le : Text → Text → Bool
  | [], _ => true
  | _ :: _, [] => false
  | c :: front, d :: back => c.toNat < d.toNat || (c = d && le front back)

/-- Texts in the order of their characters. -/
def sorted (texts : List Text) : List Text := texts.mergeSort le

/-! ## Identifiers -/

/-- A character of an identifier: an ASCII letter, an ASCII digit or an underscore. -/
def isWordChar (c : Char) : Bool :=
  c.isAlphanum || c == '_'

/-- An identifier is a non-empty run of word characters. -/
def isIdentifier (text : Text) : Bool :=
  !text.isEmpty && text.all isWordChar

/-- Whether a text is an identifier, with at most one line feed behind it. -/
def isIdentifierLine (text : Text) : Bool :=
  isIdentifier (if text.getLast? = some '\n' then text.dropLast else text)

theorem isIdentifierLine_of_isIdentifier {text : Text} (h : isIdentifier text = true) :
    isIdentifierLine text = true := by
  unfold isIdentifierLine
  split
  · rename_i hl
    obtain ⟨hn, hw⟩ := Bool.and_eq_true_iff.1 h
    have := List.all_eq_true.1 hw _ (List.mem_of_getLast? hl)
    exact absurd this (by decide)
  · exact h

/-- The decimal digits of a natural number, most significant first. -/
def ofNat (n : Nat) : Text := Nat.toDigits 10 n

/-- The natural number written by ASCII digits. -/
def digitsNumber (digits : Text) : Nat :=
  digits.foldl (fun n c => n * 10 + (c.toNat - 0x30)) 0

/-- A number with leading zeros up to `width` digits. -/
def padded (width n : Nat) : Text :=
  let digits := ofNat n
  List.replicate (width - digits.length) '0' ++ digits

end Text

end FormLetter
