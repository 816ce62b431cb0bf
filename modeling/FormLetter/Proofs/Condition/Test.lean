import FormLetter.Condition.Evaluation
import FormLetter.Condition.Parser
import FormLetter.Proofs.Text.Cutting
import Mathlib.Data.List.TakeDrop

/-!
# Texts that are tests

A grammar says which texts are read as which test, and every other text is invalid. The grammar is
wider than the written form of a comparison: the literal runs from the first quote to the last
character, so it may hold quotes, and the two quotes around it may differ.

* `Comparison`, `EmptyCall`, `Atom.Reads`: the grammar.
* `Atom.reads_iff`, `Atom.reads_or_eq_invalid`: reading follows the grammar.
* `Comparison.isWellQuoted_text_iff`: when a comparison has one literal between two equal quotes.
* `Atom.reads_parse`: what is read as a comparison, and what becomes of all other text.
-/

namespace FormLetter

open Text

/-! ## Grammar -/

/-- A quote as it may stand around a literal. -/
def isQuote (c : Char) : Bool := c == '"' || c == '\''

/-- A comparison with every character of its text. -/
structure Comparison where
  /-- The identifier that is compared. -/
  identifier : Text
  /-- The blanks in front of the operator. -/
  front : Text
  /-- Whether the operator is `!=` and not `==`. -/
  negated : Bool
  /-- The blanks behind the operator. -/
  back : Text
  /-- The quote in front of the literal. -/
  opening : Char
  /-- The literal. -/
  literal : Text
  /-- The quote behind the literal. -/
  closing : Char
  isIdentifier_identifier : isIdentifier identifier = true
  isAllBlank_front : isAllBlank front = true
  isAllBlank_back : isAllBlank back = true
  isQuote_opening : isQuote opening = true
  isQuote_closing : isQuote closing = true
  notMem_literal : '\n' ∉ literal

namespace Comparison

/-- The operator of a comparison. -/
def operator (comparison : Comparison) : Text := if comparison.negated then ['!', '='] else ['=', '=']

/-- What stands behind the operator of a comparison. -/
def quoted (comparison : Comparison) : Text :=
  comparison.opening :: (comparison.literal ++ [comparison.closing])

/-- The text of a comparison. -/
def text (comparison : Comparison) : Text :=
  '$' :: (comparison.identifier ++ (comparison.front ++
    (comparison.operator ++ (comparison.back ++ comparison.quoted))))

/-- The test that a comparison is. -/
def atom (comparison : Comparison) : Atom :=
  if comparison.negated then .notEquals comparison.identifier comparison.literal
  else .equals comparison.identifier comparison.literal

end Comparison

/-- A test for emptiness with every character of its text. -/
structure EmptyCall where
  /-- The identifier that is tested. -/
  identifier : Text
  /-- The blanks in front of the reference. -/
  front : Text
  /-- The blanks behind the reference. -/
  back : Text
  isIdentifier_identifier : isIdentifier identifier = true
  isAllBlank_front : isAllBlank front = true
  isAllBlank_back : isAllBlank back = true

/-- The text of a test for emptiness. -/
def EmptyCall.text (call : EmptyCall) : Text :=
  "empty(".toList ++ (call.front ++ '$' :: (call.identifier ++ (call.back ++ [')'])))

/-- The texts that are read as a test. -/
inductive Atom.Reads : Text → Atom → Prop
  | empty (call : EmptyCall) : Reads call.text (.empty call.identifier)
  | notEmpty (call : EmptyCall) {blanks : Text} (h : isAllBlank blanks = true) :
    Reads ('!' :: (blanks ++ call.text)) (.notEmpty call.identifier)
  | comparison (comparison : Comparison) : Reads comparison.text comparison.atom
  | truthy {identifier : Text} (h : isIdentifier identifier = true) :
    Reads ('$' :: identifier) (.truthy identifier)

/-! ## Parts of a test -/

theorem takeIdentifier?_eq_some_iff {text identifier rest : Text} :
    takeIdentifier? text = some (identifier, rest) ↔
      isIdentifier identifier = true ∧ (∀ c ∈ rest.head?, isWordChar c = false) ∧
        text = identifier ++ rest := by
  unfold takeIdentifier?
  rw [List.span_eq_takeWhile_dropWhile]
  constructor
  · intro h
    split at h
    · cases h
    · rename_i found left hne hspan
      obtain ⟨rfl, rfl⟩ : found = identifier ∧ left = rest := by simpa using h
      obtain ⟨rfl, rfl⟩ : text.takeWhile isWordChar = found ∧ text.dropWhile isWordChar = left := by
        simpa using hspan
      have hnil : text.takeWhile isWordChar ≠ [] := fun hn => hne (by rw [hn])
      have hhead := List.head?_dropWhile_not isWordChar text
      refine ⟨?_, ?_, List.takeWhile_append_dropWhile.symm⟩
      · simp [isIdentifier, hnil]
      · intro c hc
        rwa [hc] at hhead
  · rintro ⟨hi, hr, rfl⟩
    obtain ⟨hne, hword⟩ := Bool.and_eq_true_iff.1 hi
    have hword := List.all_eq_true.1 hword
    have htake : rest.takeWhile isWordChar = [] := by
      cases rest with
      | nil => rfl
      | cons c more => rw [List.takeWhile_cons_of_neg (by simp [hr c rfl])]
    have hdrop : rest.dropWhile isWordChar = rest := by
      cases rest with
      | nil => rfl
      | cons c more => rw [List.dropWhile_cons_of_neg (by simp [hr c rfl])]
    rw [List.takeWhile_append_of_pos hword, List.dropWhile_append_of_pos hword, htake, hdrop,
      List.append_nil]
    cases identifier with
    | nil => cases hne
    | cons => rfl

theorem takeReference?_eq_some_iff {text identifier rest : Text} :
    takeReference? text = some (identifier, rest) ↔
      isIdentifier identifier = true ∧ (∀ c ∈ rest.head?, isWordChar c = false) ∧
        text = '$' :: (identifier ++ rest) := by
  unfold takeReference?
  split
  · rw [takeIdentifier?_eq_some_iff, List.cons_inj_right]
  · rename_i hne
    constructor
    · intro h
      cases h
    · rintro ⟨-, -, rfl⟩
      exact absurd rfl (hne _)

theorem takeLiteral?_eq_some_iff {text literal : Text} :
    takeLiteral? text = some literal ↔
      ∃ opening closing, isQuote opening = true ∧ isQuote closing = true ∧ '\n' ∉ literal ∧
        text = opening :: (literal ++ [closing]) := by
  unfold takeLiteral?
  split
  · simp
  · rename_i first rest
    split
    · rename_i hlast
      rw [List.getLast?_eq_none_iff] at hlast
      simp [hlast]
    · rename_i last hlast
      obtain ⟨front, rfl⟩ := List.getLast?_eq_some_iff.1 hlast
      simp only [List.dropLast_concat, List.all_cons, List.all_nil, Bool.and_true,
        Option.ite_none_right_eq_some, Option.some.injEq, Bool.and_eq_true, Bool.not_eq_true',
        List.contains_eq_mem, decide_eq_false_iff_not]
      constructor
      · rintro ⟨⟨⟨ho, hc⟩, hl⟩, rfl⟩
        exact ⟨first, last, ho, hc, hl, rfl⟩
      · rintro ⟨opening, closing, ho, hc, hl, he⟩
        obtain ⟨rfl, hrest⟩ := List.cons.inj he
        obtain ⟨rfl, hlast⟩ := List.append_inj' hrest rfl
        obtain rfl := List.singleton_inj.1 hlast
        exact ⟨⟨⟨ho, hc⟩, hl⟩, rfl⟩

/-- Blanks are no word characters. -/
theorem isWordChar_of_isBlank {c : Char} (h : isBlank c = true) : isWordChar c = false := by
  rw [← Bool.not_eq_true]
  intro hw
  rw [isBlank_of_isWordChar hw] at h
  cases h

/-- Blanks may stand between an identifier and another character that ends it. -/
theorem head?_blanks_append {blanks text : Text} (hb : isAllBlank blanks = true)
    (ht : ∀ c ∈ text.head?, isWordChar c = false) :
    ∀ c ∈ (blanks ++ text).head?, isWordChar c = false := by
  intro c hc
  cases blanks with
  | nil => exact ht c hc
  | cons d more =>
    obtain rfl : d = c := by simpa using hc
    exact isWordChar_of_isBlank (List.all_eq_true.1 hb d List.mem_cons_self)

theorem isBlank_of_isQuote {c : Char} (h : isQuote c = true) : isBlank c = false := by
  rcases Bool.or_eq_true_iff.1 h with h | h
  · rw [eq_of_beq h]
    decide
  · rw [eq_of_beq h]
    decide

namespace Comparison

variable (comparison : Comparison)

theorem stripLeft_back : stripLeft (comparison.back ++ comparison.quoted) = comparison.quoted := by
  rw [stripLeft_append_of_blank comparison.isAllBlank_back]
  apply stripLeft_eq_self
  intro c hc
  obtain rfl : comparison.opening = c := by simpa [quoted] using hc
  exact isBlank_of_isQuote comparison.isQuote_opening

theorem takeLiteral?_quoted : takeLiteral? comparison.quoted = some comparison.literal :=
  takeLiteral?_eq_some_iff.2 ⟨_, _, comparison.isQuote_opening, comparison.isQuote_closing,
    comparison.notMem_literal, rfl⟩

end Comparison

namespace Atom

theorem parseComparison?_text (comparison : Comparison) :
    parseComparison? comparison.text = some comparison.atom := by
  have hliteral := comparison.takeLiteral?_quoted
  have hback := comparison.stripLeft_back
  have hhead : ∀ c ∈ (comparison.operator ++ (comparison.back ++ comparison.quoted)).head?,
      isWordChar c = false ∧ isBlank c = false := by
    unfold Comparison.operator
    split
    · simp
      decide
    · simp
      decide
  have hreference : takeReference? comparison.text = some (comparison.identifier,
      comparison.front ++ (comparison.operator ++ (comparison.back ++ comparison.quoted))) :=
    takeReference?_eq_some_iff.2 ⟨comparison.isIdentifier_identifier,
      head?_blanks_append comparison.isAllBlank_front fun c hc => (hhead c hc).1, rfl⟩
  have hfront : stripLeft (comparison.front ++
      (comparison.operator ++ (comparison.back ++ comparison.quoted))) =
        comparison.operator ++ (comparison.back ++ comparison.quoted) := by
    rw [stripLeft_append_of_blank comparison.isAllBlank_front]
    exact stripLeft_eq_self fun c hc => (hhead c hc).2
  unfold parseComparison?
  rw [hreference]
  simp only [Option.bind_eq_bind, Option.bind_some, hfront]
  unfold Comparison.operator Comparison.atom
  cases comparison.negated with
  | false => exact congrArg (Option.map _) (hback.symm ▸ hliteral)
  | true => exact congrArg (Option.map _) (hback.symm ▸ hliteral)

/-- What stands around a literal that is read makes it a comparison. -/
theorem exists_comparison {identifier front more literal : Text}
    (hi : isIdentifier identifier = true) (hf : isAllBlank front = true) (negated : Bool)
    (hl : takeLiteral? (stripLeft more) = some literal) :
    ∃ comparison : Comparison,
      comparison.text = '$' :: (identifier ++ (front ++ (comparison.operator ++ more))) ∧
        comparison.negated = negated ∧ comparison.identifier = identifier ∧
          comparison.literal = literal := by
  obtain ⟨back, hb, hback⟩ := exists_stripLeft more
  obtain ⟨opening, closing, ho, hc, hn, hquoted⟩ := takeLiteral?_eq_some_iff.1 hl
  refine ⟨⟨identifier, front, negated, back, opening, literal, closing, hi, hf, hb, ho, hc, hn⟩,
    ?_, rfl, rfl, rfl⟩
  rw [hback, hquoted]
  rfl

theorem exists_of_parseComparison? {text : Text} {atom : Atom}
    (h : parseComparison? text = some atom) :
    ∃ comparison : Comparison, comparison.text = text ∧ comparison.atom = atom := by
  unfold parseComparison? at h
  obtain ⟨⟨identifier, rest⟩, hreference, hread⟩ := Option.bind_eq_some_iff.1 h
  obtain ⟨hi, -, rfl⟩ := takeReference?_eq_some_iff.1 hreference
  obtain ⟨front, hf, hfront⟩ := exists_stripLeft rest
  dsimp only at hread
  split at hread
  · rename_i more hoperator
    obtain ⟨literal, hl, rfl⟩ := Option.map_eq_some_iff.1 hread
    obtain ⟨comparison, htext, hn, rfl, rfl⟩ := exists_comparison hi hf false hl
    refine ⟨comparison, ?_, ?_⟩
    · rw [htext, Comparison.operator, hn, hfront, hoperator]
      rfl
    · rw [Comparison.atom, hn]
      rfl
  · rename_i more hoperator
    obtain ⟨literal, hl, rfl⟩ := Option.map_eq_some_iff.1 hread
    obtain ⟨comparison, htext, hn, rfl, rfl⟩ := exists_comparison hi hf true hl
    refine ⟨comparison, ?_, ?_⟩
    · rw [htext, Comparison.operator, hn, hfront, hoperator]
      rfl
    · rw [Comparison.atom, hn]
      rfl
  · cases hread

/-! ## Tests for emptiness -/

/-- The identifier of a test for emptiness behind a mark of negation. -/
def emptyCall? (text : Text) : Option Text := do
  let inner ← after? "empty(".toList text
  let (identifier, rest) ← takeReference? (stripLeft inner)
  if stripLeft rest = [')'] then some identifier else none

theorem emptyCall?_eq_some_iff {text identifier : Text} :
    emptyCall? text = some identifier ↔
      ∃ call : EmptyCall, call.text = text ∧ call.identifier = identifier := by
  unfold emptyCall?
  constructor
  · intro h
    obtain ⟨inner, hinner, hbind⟩ := Option.bind_eq_some_iff.1 h
    obtain ⟨⟨found, rest⟩, hreference, hread⟩ := Option.bind_eq_some_iff.1 hbind
    obtain ⟨hi, -, htext⟩ := takeReference?_eq_some_iff.1 hreference
    obtain ⟨hclose, hfound⟩ := Option.ite_none_right_eq_some.1 hread
    obtain rfl : found = identifier := Option.some.inj hfound
    obtain ⟨front, hf, hfront⟩ := exists_stripLeft inner
    obtain ⟨back, hb, hback⟩ := exists_stripLeft rest
    refine ⟨⟨found, front, back, hi, hf, hb⟩, ?_, rfl⟩
    rw [after?_eq_some_iff.1 hinner, hfront, htext, hback, hclose]
    rfl
  · rintro ⟨call, rfl, rfl⟩
    have hinner : after? "empty(".toList call.text =
        some (call.front ++ '$' :: (call.identifier ++ (call.back ++ [')']))) :=
      after?_eq_some_iff.2 rfl
    have hfront : stripLeft (call.front ++ '$' :: (call.identifier ++ (call.back ++ [')']))) =
        '$' :: (call.identifier ++ (call.back ++ [')'])) := by
      rw [stripLeft_append_of_blank call.isAllBlank_front]
      exact stripLeft_eq_self (by simp; decide)
    have hreference : takeReference? ('$' :: (call.identifier ++ (call.back ++ [')']))) =
        some (call.identifier, call.back ++ [')']) :=
      takeReference?_eq_some_iff.2 ⟨call.isIdentifier_identifier,
        head?_blanks_append call.isAllBlank_back (by simp; decide), rfl⟩
    have hback : stripLeft (call.back ++ [')']) = [')'] := by
      rw [stripLeft_append_of_blank call.isAllBlank_back]
      rfl
    rw [hinner]
    simp only [Option.bind_eq_bind, Option.bind_some, hfront, hreference, hback, if_true]

theorem map_emptyCall? (build : Text → Atom) (text : Text) :
    (emptyCall? text).map build = (do
      let inner ← after? "empty(".toList text
      let (identifier, rest) ← takeReference? (stripLeft inner)
      if stripLeft rest = [')'] then some (build identifier) else none) := by
  unfold emptyCall?
  cases after? "empty(".toList text with
  | none => rfl
  | some inner =>
    simp only [Option.bind_eq_bind, Option.bind_some]
    cases takeReference? (stripLeft inner) with
    | none => rfl
    | some found =>
      simp only [Option.bind_some]
      split <;> rfl

theorem parseEmpty?_negated (rest : Text) :
    parseEmpty? ('!' :: rest) = (emptyCall? (stripLeft rest)).map .notEmpty :=
  (map_emptyCall? .notEmpty (stripLeft rest)).symm

theorem parseEmpty?_of_ne {text : Text} (h : ∀ rest, text ≠ '!' :: rest) :
    parseEmpty? text = (emptyCall? text).map .empty := by
  rw [map_emptyCall?]
  unfold parseEmpty?
  split
  rename_i negated rest hmark
  split at hmark
  · exact absurd rfl (h _)
  · obtain ⟨rfl, rfl⟩ := Prod.mk.inj hmark
    rfl

theorem reads_of_parseEmpty? {text : Text} {atom : Atom} (h : parseEmpty? text = some atom) :
    Reads text atom := by
  by_cases hmark : ∃ rest, text = '!' :: rest
  · obtain ⟨rest, rfl⟩ := hmark
    rw [parseEmpty?_negated] at h
    obtain ⟨identifier, hcall, rfl⟩ := Option.map_eq_some_iff.1 h
    obtain ⟨call, htext, rfl⟩ := emptyCall?_eq_some_iff.1 hcall
    obtain ⟨blanks, hb, hrest⟩ := exists_stripLeft rest
    rw [hrest, ← htext]
    exact .notEmpty call hb
  · rw [parseEmpty?_of_ne fun rest hr => hmark ⟨rest, hr⟩] at h
    obtain ⟨identifier, hcall, rfl⟩ := Option.map_eq_some_iff.1 h
    obtain ⟨call, rfl, rfl⟩ := emptyCall?_eq_some_iff.1 hcall
    exact .empty call

theorem parseEmpty?_text (call : EmptyCall) :
    parseEmpty? call.text = some (.empty call.identifier) := by
  have hcall : emptyCall? call.text = some call.identifier :=
    emptyCall?_eq_some_iff.2 ⟨call, rfl, rfl⟩
  have hmark : ∀ rest, call.text ≠ '!' :: rest := by
    intro rest h
    cases h
  rw [parseEmpty?_of_ne hmark, hcall]
  rfl

theorem parseEmpty?_text_negated (call : EmptyCall) {blanks : Text} (h : isAllBlank blanks = true) :
    parseEmpty? ('!' :: (blanks ++ call.text)) = some (.notEmpty call.identifier) := by
  have hcall : emptyCall? call.text = some call.identifier :=
    emptyCall?_eq_some_iff.2 ⟨call, rfl, rfl⟩
  have hblanks : stripLeft (blanks ++ call.text) = call.text := by
    rw [stripLeft_append_of_blank h]
    rfl
  rw [parseEmpty?_negated, hblanks, hcall]
  rfl

theorem parseEmpty?_reference (rest : Text) : parseEmpty? ('$' :: rest) = none := rfl

/-! ## References -/

theorem parseTruthy?_eq_some_iff {text : Text} {atom : Atom} :
    parseTruthy? text = some atom ↔
      ∃ identifier, isIdentifier identifier = true ∧ text = '$' :: identifier ∧
        atom = .truthy identifier := by
  unfold parseTruthy?
  constructor
  · intro h
    obtain ⟨⟨identifier, rest⟩, hreference, hread⟩ := Option.bind_eq_some_iff.1 h
    obtain ⟨hi, -, htext⟩ := takeReference?_eq_some_iff.1 hreference
    obtain ⟨rfl, hatom⟩ := Option.ite_none_right_eq_some.1 hread
    rw [List.append_nil] at htext
    exact ⟨identifier, hi, htext, (Option.some.inj hatom).symm⟩
  · rintro ⟨identifier, hi, rfl, rfl⟩
    have hreference : takeReference? ('$' :: identifier) = some (identifier, []) :=
      takeReference?_eq_some_iff.2 ⟨hi, by simp, by rw [List.append_nil]⟩
    rw [hreference]
    rfl

theorem parseComparison?_reference {identifier : Text} (hi : isIdentifier identifier = true) :
    parseComparison? ('$' :: identifier) = none := by
  have hreference : takeReference? ('$' :: identifier) = some (identifier, []) :=
    takeReference?_eq_some_iff.2 ⟨hi, by simp, by rw [List.append_nil]⟩
  unfold parseComparison?
  rw [hreference]
  rfl

/-! ## Reading follows the grammar -/

/-- The test that a text without blanks at its ends is read as. -/
theorem reads_iff {text : Text} {atom : Atom} :
    Reads text atom ↔
      (parseEmpty? text).or ((parseComparison? text).or (parseTruthy? text)) = some atom := by
  constructor
  · intro h
    cases h with
    | empty call => rw [parseEmpty?_text, Option.some_or]
    | notEmpty call h => rw [parseEmpty?_text_negated call h, Option.some_or]
    | comparison comparison =>
      rw [parseComparison?_text, Option.some_or, Comparison.text, parseEmpty?_reference,
        Option.none_or]
    | truthy h =>
      rw [parseEmpty?_reference, parseComparison?_reference h, Option.none_or, Option.none_or]
      exact parseTruthy?_eq_some_iff.2 ⟨_, h, rfl, rfl⟩
  · intro h
    rcases Option.or_eq_some_iff.1 h with h | ⟨-, h⟩
    · exact reads_of_parseEmpty? h
    rcases Option.or_eq_some_iff.1 h with h | ⟨-, h⟩
    · obtain ⟨comparison, rfl, rfl⟩ := exists_of_parseComparison? h
      exact .comparison comparison
    · obtain ⟨identifier, hi, rfl, rfl⟩ := parseTruthy?_eq_some_iff.1 h
      exact .truthy hi

theorem Reads.parse_eq {text : Text} {atom : Atom} (h : Reads (strip text) atom) :
    Atom.parse text = atom := by
  unfold Atom.parse
  dsimp only
  rw [reads_iff.1 h]
  rfl

theorem Reads.ne_invalid {text other : Text} {atom : Atom} (h : Reads text atom) :
    atom ≠ .invalid other := by
  cases h with
  | comparison comparison =>
    unfold Comparison.atom
    split
    · exact Atom.noConfusion
    · exact Atom.noConfusion
  | _ => exact Atom.noConfusion

theorem parse_eq_invalid {text : Text} (h : ∀ atom, ¬ Reads (strip text) atom) :
    Atom.parse text = .invalid (strip text) := by
  unfold Atom.parse
  have hnone : (parseEmpty? (strip text)).or
      ((parseComparison? (strip text)).or (parseTruthy? (strip text))) = none :=
    Option.eq_none_iff_forall_ne_some.2 fun atom ha => h atom (reads_iff.2 ha)
  dsimp only
  rw [hnone]
  rfl

/-- A text is read as its test, or it is invalid. -/
theorem reads_or_eq_invalid (text : Text) :
    Reads (strip text) (Atom.parse text) ∨ Atom.parse text = .invalid (strip text) := by
  by_cases h : ∃ atom, Reads (strip text) atom
  · obtain ⟨atom, ha⟩ := h
    rw [ha.parse_eq]
    exact Or.inl ha
  · exact Or.inr (parse_eq_invalid fun atom ha => h ⟨atom, ha⟩)

end Atom

/-! ## Quotes -/

/-- Whether the first quote of a text is its last character and stands nowhere between. -/
def isWellQuoted (text : Text) : Bool :=
  (text.find? isQuote).any fun quote => text.getLast? = some quote && text.count quote = 2

/-- Whether a comparison has one literal between two equal quotes, and none of these inside. -/
def Comparison.IsMatched (comparison : Comparison) : Prop :=
  comparison.closing = comparison.opening ∧ comparison.opening ∉ comparison.literal

namespace Comparison

variable (comparison : Comparison)

/-- What stands in front of the literal of a comparison and its quotes. -/
def head : Text :=
  '$' :: (comparison.identifier ++ (comparison.front ++ (comparison.operator ++ comparison.back)))

theorem text_eq : comparison.text = comparison.head ++ comparison.quoted := by
  simp [text, head]

theorem isQuote_of_mem_head {c : Char} (h : c ∈ comparison.head) : isQuote c = false := by
  have hword : ∀ d, isWordChar d = true → isQuote d = false := by
    intro d hd
    rw [← Bool.not_eq_true]
    intro hq
    rcases Bool.or_eq_true_iff.1 hq with hq | hq
    · rw [eq_of_beq hq] at hd
      exact absurd hd (by decide)
    · rw [eq_of_beq hq] at hd
      exact absurd hd (by decide)
  have hblank : ∀ d, isBlank d = true → isQuote d = false := by
    intro d hd
    rw [← Bool.not_eq_true]
    intro hq
    rw [isBlank_of_isQuote hq] at hd
    cases hd
  have hoperator : comparison.operator.any isQuote = false := by
    unfold operator
    cases comparison.negated <;> rfl
  have hidentifier := (Bool.and_eq_true_iff.1 comparison.isIdentifier_identifier).2
  unfold head at h
  simp only [List.mem_cons, List.mem_append] at h
  rcases h with rfl | h | h | h | h
  · decide
  · exact hword c (List.all_eq_true.1 hidentifier c h)
  · exact hblank c (List.all_eq_true.1 comparison.isAllBlank_front c h)
  · exact Bool.eq_false_iff.2 (List.any_eq_false.1 hoperator c h)
  · exact hblank c (List.all_eq_true.1 comparison.isAllBlank_back c h)

theorem find?_text : comparison.text.find? isQuote = some comparison.opening := by
  have hhead : comparison.head.find? isQuote = none :=
    List.find?_eq_none.2 fun c hc => by
      rw [comparison.isQuote_of_mem_head hc]
      exact Bool.false_ne_true
  rw [text_eq, List.find?_append, hhead, Option.none_or, quoted,
    List.find?_cons_of_pos comparison.isQuote_opening]

theorem getLast?_text : comparison.text.getLast? = some comparison.closing := by
  rw [text_eq, quoted, ← List.cons_append, ← List.append_assoc, List.getLast?_concat]

theorem count_text :
    comparison.text.count comparison.opening =
      1 + comparison.literal.count comparison.opening +
        [comparison.closing].count comparison.opening := by
  have hhead : comparison.head.count comparison.opening = 0 :=
    List.count_eq_zero.2 fun h => by
      have hquote := comparison.isQuote_of_mem_head h
      rw [comparison.isQuote_opening] at hquote
      cases hquote
  rw [text_eq, quoted, List.count_append, hhead, List.count_cons_self, List.count_append]
  omega

/-- The quotes of a comparison match exactly if its text is well quoted. -/
theorem isWellQuoted_text_iff : isWellQuoted comparison.text = true ↔ comparison.IsMatched := by
  unfold isWellQuoted IsMatched
  rw [comparison.find?_text, Option.any_some, comparison.getLast?_text, comparison.count_text,
    Bool.and_eq_true, decide_eq_true_eq, decide_eq_true_eq, Option.some.injEq]
  refine and_congr_right fun hclosing => ?_
  rw [hclosing, List.count_singleton_self, ← List.count_eq_zero]
  omega

end Comparison

namespace Atom

theorem exists_comparison_of_parse {text : Text} {identifier literal : Text}
    (h : Atom.parse text = .equals identifier literal ∨
      Atom.parse text = .notEquals identifier literal) :
    ∃ comparison : Comparison, comparison.text = strip text ∧
      comparison.atom = Atom.parse text ∧ comparison.identifier = identifier ∧
        comparison.literal = literal := by
  have hreads : Reads (strip text) (Atom.parse text) := by
    rcases reads_or_eq_invalid text with hr | hi
    · exact hr
    · rw [hi] at h
      rcases h with h | h <;> cases h
  generalize hstrip : strip text = stripped at hreads
  generalize Atom.parse text = atom at h hreads
  cases hreads with
  | comparison comparison =>
    refine ⟨comparison, rfl, rfl, ?_⟩
    unfold Comparison.atom at h
    split at h
    · rcases h with h | h <;> cases h
      exact ⟨rfl, rfl⟩
    · rcases h with h | h <;> cases h
      exact ⟨rfl, rfl⟩
  | _ => rcases h with h | h <;> cases h

theorem evaluate_of_parse_eq_invalid {text other : Text} (h : Atom.parse text = .invalid other)
    (valueOf : Text → Text) :
    (Condition.test (Atom.parse text)).evaluate valueOf = (false, [.invalidCondition other]) := by
  rw [h]
  rfl

/-- **What is read as a comparison.** A text that is read as a comparison has the parts of one, and
each such text is read that way; its literal stands between two equal quotes that it does not hold
exactly if the text is well quoted. A text is invalid exactly if it is no comparison, no test for
emptiness and no reference; then it does not hold, whatever the values, and is reported. -/
theorem reads_parse (text : Text) :
    (∀ identifier literal : Text,
      (Atom.parse text = .equals identifier literal ∨
        Atom.parse text = .notEquals identifier literal) →
      ∃ comparison : Comparison, comparison.text = strip text ∧
        comparison.atom = Atom.parse text ∧ comparison.identifier = identifier ∧
          comparison.literal = literal ∧
            (comparison.IsMatched ↔ isWellQuoted (strip text) = true)) ∧
      (∀ comparison : Comparison, comparison.text = strip text →
        Atom.parse text = comparison.atom) ∧
      (Atom.parse text = .invalid (strip text) ↔ ∀ atom, ¬ Reads (strip text) atom) ∧
      ((∀ atom, ¬ Reads (strip text) atom) → ∀ valueOf : Text → Text,
        (Condition.test (Atom.parse text)).evaluate valueOf =
          (false, [.invalidCondition (strip text)])) := by
  have hinvalid : Atom.parse text = .invalid (strip text) ↔ ∀ atom, ¬ Reads (strip text) atom := by
    constructor
    · intro h atom ha
      rw [ha.parse_eq] at h
      exact ha.ne_invalid h
    · exact parse_eq_invalid
  refine ⟨?_, ?_, hinvalid, ?_⟩
  · intro identifier literal h
    obtain ⟨comparison, htext, hatom, hi, hl⟩ := exists_comparison_of_parse h
    refine ⟨comparison, htext, hatom, hi, hl, ?_⟩
    rw [← htext]
    exact comparison.isWellQuoted_text_iff.symm
  · intro comparison htext
    have hreads : Reads (strip text) comparison.atom := by
      rw [← htext]
      exact .comparison comparison
    exact hreads.parse_eq
  · intro h valueOf
    exact evaluate_of_parse_eq_invalid (hinvalid.2 h) valueOf

/-- A comparison with a quote of the other kind in its literal, and a call that is no test. -/
theorem reads_parse_call :
    let comparison := " $State=='N\"W' ".toList
    let call := "count($X) == 1".toList
    (∃ c : Comparison, c.text = strip comparison ∧ c.atom = Atom.parse comparison ∧
      c.identifier = "State".toList ∧ c.literal = "N\"W".toList ∧ c.IsMatched) ∧
      ∀ valueOf : Text → Text, (Condition.test (Atom.parse call)).evaluate valueOf =
        (false, [.invalidCondition call]) := by
  intro comparison call
  constructor
  · have hread : Atom.parse comparison = .equals "State".toList "N\"W".toList := by
      decide +kernel
    obtain ⟨c, htext, hatom, hi, hl, hmatched⟩ :=
      (reads_parse comparison).1 "State".toList "N\"W".toList (Or.inl hread)
    exact ⟨c, htext, hatom, hi, hl, hmatched.2 (by decide +kernel)⟩
  · have hinvalid : Atom.parse call = .invalid (strip call) := by decide +kernel
    exact (reads_parse call).2.2.2 ((reads_parse call).2.2.1.1 hinvalid)

/-- Two comparisons with a word between them that joins nothing are read as one comparison, whose
literal runs from the first quote to the last. -/
theorem parse_or_not_isMatched :
    let text := "$X == \"a\" or $Y == \"b\"".toList
    let literal := "a\" or $Y == \"b".toList
    Atom.parse text = .equals ['X'] literal ∧
      ¬ ∃ comparison : Comparison, comparison.text = strip text ∧
        comparison.identifier = ['X'] ∧ comparison.literal = literal ∧ comparison.IsMatched := by
  intro text literal
  refine ⟨by decide +kernel, ?_⟩
  rintro ⟨comparison, htext, -, -, hmatched⟩
  have hquoted := comparison.isWellQuoted_text_iff.2 hmatched
  rw [htext] at hquoted
  exact absurd hquoted (by decide +kernel)

end Atom

end FormLetter
