import FormLetter.Condition.Basic
import FormLetter.Text.Blank

/-!
# Reading conditions

A condition stands in markup, so the references for `&`, the quotes and the dollar sign are decoded
first. It is then cut at its conjunctions, the words `and` (in any case) and `&&` between blanks,
and each piece is read as a test. Reading is total: a piece that is no test is kept as invalid.

* `Condition.decode`, `Condition.splitConjunctions`, `Atom.parse`: the three steps.
* `Condition.parse`: a condition from its text.

Main statement: `length_afterConjunction?_lt` (cutting makes progress).
-/

namespace FormLetter

open Text

/-! ## References -/

/-- The references that may stand in a condition, in the order in which they are decoded. -/
def Condition.references : List (Text × Text) :=
  [("&amp;".toList, ['&']), ("&quot;".toList, ['"']), ("&apos;".toList, ['\'']),
    ("&#39;".toList, ['\'']), ("&#36;".toList, ['$'])]

/-- The text with one reference after the other decoded everywhere. -/
def Condition.decode (text : Text) : Text :=
  replaceEach Condition.references text

/-! ## Conjunctions -/

/-- What follows the word `and`, in any case, in front of the text. -/
def afterAnd? : Text → Option Text
  | a :: n :: d :: rest =>
    if [a.toLower, n.toLower, d.toLower] = ['a', 'n', 'd'] then some rest else none
  | _ => none

/-- What follows a conjunction in front of the text: blanks, `and` or `&&`, blanks. -/
def afterConjunction? (text : Text) : Option Text := do
  let word ← afterBlanks? text
  let rest ← (afterAnd? word).or (after? ['&', '&'] word)
  afterBlanks? rest

theorem length_afterBlanks?_lt {text rest : Text} (h : afterBlanks? text = some rest) :
    rest.length < text.length := by
  cases text with
  | nil => simp [afterBlanks?] at h
  | cons c more =>
    simp only [afterBlanks?, Option.ite_none_right_eq_some, Option.some.injEq] at h
    obtain ⟨_, rfl⟩ := h
    exact Nat.lt_succ_of_le (length_stripLeft_le more)

theorem length_afterAnd?_le {text rest : Text} (h : afterAnd? text = some rest) :
    rest.length ≤ text.length := by
  unfold afterAnd? at h
  split at h
  · split at h
    · cases h
      simp only [List.length_cons]
      omega
    · simp at h
  · simp at h

theorem length_afterConjunction?_lt {text rest : Text} (h : afterConjunction? text = some rest) :
    rest.length < text.length := by
  unfold afterConjunction? at h
  simp only [Option.bind_eq_bind, Option.bind_eq_some_iff] at h
  obtain ⟨word, hw, middle, hm, hr⟩ := h
  have h1 := length_afterBlanks?_lt hw
  have h2 := length_afterBlanks?_lt hr
  have h3 : middle.length ≤ word.length := by
    rcases Option.or_eq_some_iff.1 hm with ha | ⟨_, ha⟩
    · exact length_afterAnd?_le ha
    · rw [after?_eq_some_iff.1 ha]
      simp only [List.cons_append, List.nil_append, List.length_cons]
      omega
  omega

/-- The pieces of a text between its conjunctions; always at least one. -/
def Condition.splitConjunctions : Text → List Text
  | [] => [[]]
  | c :: rest =>
    match _h : afterConjunction? (c :: rest) with
    | some tail => [] :: Condition.splitConjunctions tail
    | none =>
      match Condition.splitConjunctions rest with
      | [] => [[c]]
      | piece :: pieces => (c :: piece) :: pieces
  termination_by text => text.length
  decreasing_by
    · exact length_afterConjunction?_lt _h
    · simp

/-! ## Tests -/

/-- The run of word characters in front of the text, if there is one, and the rest. -/
def takeIdentifier? (text : Text) : Option (Text × Text) :=
  match text.span isWordChar with
  | ([], _) => none
  | (identifier, rest) => some (identifier, rest)

/-- An identifier after a dollar sign. -/
def takeReference? : Text → Option (Text × Text)
  | '$' :: rest => takeIdentifier? rest
  | _ => none

/-- Reads `empty($X)` and `!empty($X)`, with blanks allowed around the reference and after `!`. -/
def Atom.parseEmpty? (text : Text) : Option Atom := do
  let (negated, rest) :=
    match text with
    | '!' :: rest => (true, stripLeft rest)
    | _ => (false, text)
  let inner ← after? "empty(".toList rest
  let (identifier, rest) ← takeReference? (stripLeft inner)
  if stripLeft rest = [')'] then
    some (if negated then .notEmpty identifier else .empty identifier)
  else none

/-- A literal between quotes that ends the text: it holds no line break, and any two quotes match.
-/
def takeLiteral? : Text → Option Text
  | [] => none
  | opening :: rest =>
    match rest.getLast? with
    | none => none
    | some closing =>
      let literal := rest.dropLast
      if [opening, closing].all (fun c => c == '"' || c == '\'') && !literal.contains '\n' then
        some literal
      else none

/-- Reads `$X == "literal"` and `$X != "literal"`, with blanks allowed around the operator. -/
def Atom.parseComparison? (text : Text) : Option Atom := do
  let (identifier, rest) ← takeReference? text
  match stripLeft rest with
  | '=' :: '=' :: rest => (takeLiteral? (stripLeft rest)).map (.equals identifier)
  | '!' :: '=' :: rest => (takeLiteral? (stripLeft rest)).map (.notEquals identifier)
  | _ => none

/-- Reads a bare `$X`. -/
def Atom.parseTruthy? (text : Text) : Option Atom := do
  let (identifier, rest) ← takeReference? text
  if rest = [] then some (.truthy identifier) else none

/-- A test from its text; what is no test is invalid. -/
def Atom.parse (text : Text) : Atom :=
  let text := strip text
  ((Atom.parseEmpty? text).or ((Atom.parseComparison? text).or (Atom.parseTruthy? text))).getD
    (.invalid text)

/-- A condition from its text. -/
def Condition.parse (text : Text) : Condition :=
  .ofAtoms ((Condition.splitConjunctions (strip (Condition.decode text))).map Atom.parse)

end FormLetter
