import FormLetter.Text.Basic

/-!
# Blanks

Blanks are the white-space characters of Unicode together with the four separator controls
`U+001C` to `U+001F`; the zero-width characters are not among them.

* `Text.strip`: a text without the blanks at its two ends.
* `Text.words`: the maximal runs of other characters.

Main statement: `strip_strip`.
-/

namespace FormLetter

namespace Text

/-- Whether a character is a blank. -/
def isBlank (c : Char) : Bool :=
  let n := c.toNat
  n == 0x20 || (0x09 ≤ n && n ≤ 0x0D) || (0x1C ≤ n && n ≤ 0x1F) || n == 0x85 || n == 0xA0 ||
    n == 0x1680 || (0x2000 ≤ n && n ≤ 0x200A) || n == 0x2028 || n == 0x2029 || n == 0x202F ||
    n == 0x205F || n == 0x3000

/-- Whether a text holds nothing but blanks. -/
abbrev isAllBlank (text : Text) : Bool := text.all isBlank

/-- The text without its leading blanks. -/
abbrev stripLeft (text : Text) : Text := text.dropWhile isBlank

/-- The text without its trailing blanks. -/
def stripRight (text : Text) : Text := (stripLeft text.reverse).reverse

/-- The text without the blanks at its two ends. -/
def strip (text : Text) : Text := stripRight (stripLeft text)

/-- What follows the blanks in front of a text, if there is at least one. -/
def afterBlanks? : Text → Option Text
  | [] => none
  | c :: rest => if isBlank c then some (stripLeft rest) else none

/-! ## Ends -/

theorem length_stripLeft_le (text : Text) : (stripLeft text).length ≤ text.length :=
  (List.dropWhile_suffix isBlank).length_le

theorem stripLeft_eq_self {text : Text} (h : ∀ c ∈ text.head?, isBlank c = false) :
    stripLeft text = text := by
  cases text with
  | nil => rfl
  | cons c rest => simp [h c (by simp)]

theorem stripRight_eq_self {text : Text} (h : ∀ c ∈ text.getLast?, isBlank c = false) :
    stripRight text = text := by
  unfold stripRight
  rw [stripLeft_eq_self, List.reverse_reverse]
  simpa [List.head?_reverse] using h

theorem head?_stripLeft (text : Text) : ∀ c ∈ (stripLeft text).head?, isBlank c = false := by
  induction text with
  | nil => simp
  | cons d rest ih =>
    by_cases h : isBlank d = true
    · simpa [h] using ih
    · simp [h]

theorem getLast?_stripRight (text : Text) :
    ∀ c ∈ (stripRight text).getLast?, isBlank c = false := by
  unfold stripRight
  simpa [List.getLast?_reverse] using head?_stripLeft text.reverse

/-- Stripping the right end keeps what is in front. -/
theorem stripRight_isPrefixOf (text : Text) : stripRight text <+: text := by
  unfold stripRight
  have h := List.dropWhile_suffix isBlank (l := text.reverse)
  simpa using List.reverse_prefix.2 h

theorem head?_strip (text : Text) : ∀ c ∈ (strip text).head?, isBlank c = false := by
  intro c hc
  obtain ⟨tail, htail⟩ := stripRight_isPrefixOf (stripLeft text)
  apply head?_stripLeft text c
  rw [← htail]
  unfold strip at hc
  rcases hs : stripRight (stripLeft text) with _ | ⟨d, more⟩
  · simp [hs] at hc
  · simpa [hs] using hc

/-- A stripped text is not changed by a second strip. -/
theorem strip_strip (text : Text) : strip (strip text) = strip text := by
  have h : strip (strip text) = stripRight (strip text) :=
    congrArg stripRight (stripLeft_eq_self (head?_strip text))
  rw [h]
  exact stripRight_eq_self (getLast?_stripRight _)

/-! ## Words -/

/-- The maximal runs of characters that are no blanks. -/
def words : Text → List Text
  | [] => []
  | c :: rest =>
    if isBlank c then words rest
    else
      match rest with
      | [] => [[c]]
      | d :: _ =>
        match isBlank d, words rest with
        | false, word :: others => (c :: word) :: others
        | _, others => [c] :: others

end Text

end FormLetter
