import FormLetter.Proofs.Condition.Conjunction
import FormLetter.Proofs.Condition.Test
import FormLetter.Proofs.Text.Replacement

/-!
# Reading written conditions

Tests that are written and joined by `and` are read back. A condition is cut before its literals are
looked at, so a literal that holds a conjunction is cut too, and then the tests are not read back.

* `Atom.IsWritable`: the tests that can be written.
* `Atom.IsWritable.text_cases`: a written test is a framed identifier or a comparison.
* `Atom.IsWritable.reads_text`: the text of a test is read as the test, whatever its literal.
* `HoldsConjunction.of_comparison`: a conjunction in a written comparison stands in its literal.
* `Atom.IsWritable.isOperand_text`: when a written test survives the cutting.
* `Condition.parse_text_iff`: written conditions are read back exactly if no literal holds a
  conjunction.
-/

namespace FormLetter

open Text

/-! ## Written tests -/

namespace Atom

/-- The literal that a test compares with. -/
def literal? : Atom → Option Text
  | .equals _ literal | .notEquals _ literal => some literal
  | .empty _ | .notEmpty _ | .truthy _ | .invalid _ => none

/-- A test that can be written: it asks for an identifier, and its literal has no line break. -/
structure IsWritable (atom : Atom) : Prop where
  /-- It asks for an identifier. -/
  exists_identifier : ∃ identifier, atom.identifier? = some identifier ∧
    isIdentifier identifier = true
  /-- Its literal has no line break. -/
  notMem_break : ∀ literal ∈ atom.literal?, '\n' ∉ literal

/-- A comparison with a single blank on each side of its operator and double quotes. -/
def written (identifier : Text) (negated : Bool) (literal : Text)
    (hi : isIdentifier identifier = true) (hl : '\n' ∉ literal) : Comparison :=
  ⟨identifier, [' '], negated, [' '], '"', literal, '"', hi, by decide, by decide, by decide,
    by decide, hl⟩

theorem text_written {identifier literal : Text} (hi : isIdentifier identifier = true)
    (hl : '\n' ∉ literal) (negated : Bool) :
    (written identifier negated literal hi hl).text =
      (written identifier negated literal hi hl).atom.text := by
  cases negated with
  | false =>
    show _ = '$' :: identifier ++ " == \"".toList ++ literal ++ "\"".toList
    rw [List.append_assoc, List.append_assoc]
    rfl
  | true =>
    show _ = '$' :: identifier ++ " != \"".toList ++ literal ++ "\"".toList
    rw [List.append_assoc, List.append_assoc]
    rfl

theorem text_empty {identifier : Text} (hi : isIdentifier identifier = true) :
    (EmptyCall.mk identifier [] [] hi rfl rfl).text = (Atom.empty identifier).text := by
  show _ = "empty($".toList ++ identifier ++ ")".toList
  rw [List.append_assoc]
  rfl

variable {atom : Atom}

/-- What stands around the identifier of a written test that has no literal. -/
def frames : List (Text × Text) :=
  [("empty($".toList, ")".toList), ("!empty($".toList, ")".toList), (['$'], [])]

/-- A written test is a framed identifier or a comparison. -/
theorem IsWritable.text_cases (h : atom.IsWritable) :
    (∃ identifier, isIdentifier identifier = true ∧
      ∃ frame ∈ frames, atom.text = frame.1 ++ identifier ++ frame.2) ∨
      ∃ (identifier literal : Text) (negated : Bool) (hi : isIdentifier identifier = true)
        (hl : '\n' ∉ literal), atom.literal? = some literal ∧
          atom = (written identifier negated literal hi hl).atom := by
  obtain ⟨identifier, ha, hi⟩ := h.exists_identifier
  have hbreak := h.notMem_break
  cases atom with
  | empty name =>
    obtain rfl : name = identifier := Option.some.inj ha
    exact Or.inl ⟨name, hi, _, List.mem_cons_self, rfl⟩
  | notEmpty name =>
    obtain rfl : name = identifier := Option.some.inj ha
    exact Or.inl ⟨name, hi, _, List.mem_cons_of_mem _ List.mem_cons_self, rfl⟩
  | truthy name =>
    obtain rfl : name = identifier := Option.some.inj ha
    refine Or.inl ⟨name, hi, (['$'], []), by decide, ?_⟩
    rw [List.append_nil]
    rfl
  | equals name literal =>
    obtain rfl : name = identifier := Option.some.inj ha
    exact Or.inr ⟨name, literal, false, hi, hbreak literal rfl, rfl, rfl⟩
  | notEquals name literal =>
    obtain rfl : name = identifier := Option.some.inj ha
    exact Or.inr ⟨name, literal, true, hi, hbreak literal rfl, rfl, rfl⟩
  | invalid text => cases ha

/-- The text of a test is read as the test. -/
theorem IsWritable.reads_text (h : atom.IsWritable) : Reads atom.text atom := by
  obtain ⟨identifier, ha, hi⟩ := h.exists_identifier
  have hbreak := h.notMem_break
  cases atom with
  | empty name =>
    obtain rfl : name = identifier := Option.some.inj ha
    rw [← text_empty hi]
    exact .empty _
  | notEmpty name =>
    obtain rfl : name = identifier := Option.some.inj ha
    show Reads ('!' :: (Atom.empty name).text) _
    rw [← text_empty hi]
    exact .notEmpty ⟨name, [], [], hi, rfl, rfl⟩ List.all_nil
  | equals name literal =>
    obtain rfl : name = identifier := Option.some.inj ha
    have hreads := Reads.comparison (written name false literal hi (hbreak literal rfl))
    rwa [text_written] at hreads
  | notEquals name literal =>
    obtain rfl : name = identifier := Option.some.inj ha
    have hreads := Reads.comparison (written name true literal hi (hbreak literal rfl))
    rwa [text_written] at hreads
  | truthy name =>
    obtain rfl : name = identifier := Option.some.inj ha
    exact .truthy hi
  | invalid text => cases ha

end Atom

/-! ## Conjunctions in written tests -/

/-- The marks of a comparison part the conjunctions of a text. -/
theorem HoldsConjunction.of_append_mark {front back : Text} {c : Char} (hc : c ∈ ['=', '!', '"'])
    (h : HoldsConjunction (front ++ c :: back)) : HoldsConjunction front ∨ HoldsConjunction back := by
  have hmark : isBlank c = false ∧ c ≠ '&' ∧ c.toLower ∉ ['a', 'n', 'd'] := by
    simp only [List.mem_cons, List.not_mem_nil, or_false] at hc
    rcases hc with rfl | rfl | rfl <;> decide
  obtain ⟨hblank, hampersand, hletters⟩ := hmark
  refine h.of_append_cons hblank ?_
  intro word hw hmem
  rcases hw.mem_cases hmem with he | hletter
  · exact hampersand he
  · exact hletters hletter

/-- A conjunction in a written comparison stands in its literal: no two blanks are left between the
marks around it. -/
theorem HoldsConjunction.of_comparison {front literal : Text} {sign : Char}
    (hsign : sign ∈ ['=', '!', '"']) (hfront : front.countP isBlank < 2)
    (h : HoldsConjunction (front ++ sign :: '=' :: ' ' :: '"' :: (literal ++ ['"', ' ']))) :
    HoldsConjunction literal := by
  have few {text : Text} := @not_holdsConjunction_of_countP text
  have hequals : HoldsConjunction ([] ++ '=' :: ' ' :: '"' :: (literal ++ ['"', ' '])) :=
    (h.of_append_mark hsign).resolve_left (few hfront)
  have hopening : HoldsConjunction ([' '] ++ '"' :: (literal ++ ['"', ' '])) :=
    (hequals.of_append_mark (by decide)).resolve_left (few (by decide))
  have hclosing : HoldsConjunction (literal ++ '"' :: [' ']) :=
    (hopening.of_append_mark (by decide)).resolve_left (few (by decide))
  exact (hclosing.of_append_mark (by decide)).resolve_right (few (by decide))

theorem notMem_identifier {identifier : Text} (hi : isIdentifier identifier = true) {c : Char}
    (hc : isWordChar c = false) : c ∉ identifier := by
  intro hmem
  rw [List.all_eq_true.1 (Bool.and_eq_true_iff.1 hi).2 c hmem] at hc
  cases hc

theorem any_isBlank_identifier {identifier : Text} (hi : isIdentifier identifier = true) :
    identifier.any isBlank = false := by
  refine List.any_eq_false.2 fun c hc => ?_
  rw [isBlank_of_isWordChar (List.all_eq_true.1 (Bool.and_eq_true_iff.1 hi).2 c hc)]
  exact Bool.false_ne_true

theorem countP_reference {identifier : Text} (hi : isIdentifier identifier = true) :
    ('$' :: identifier ++ [' ']).countP isBlank < 2 := by
  have hnone : identifier.countP isBlank = 0 :=
    List.countP_eq_zero.2 (List.any_eq_false.1 (any_isBlank_identifier hi))
  rw [List.cons_append, List.countP_cons_of_neg (by decide), List.countP_append, hnone]
  decide

namespace Atom

variable {atom : Atom}

/-- A written comparison survives the cutting if its literal holds no conjunction. -/
theorem isOperand_written {identifier literal : Text} (hi : isIdentifier identifier = true)
    (hl : '\n' ∉ literal) (negated : Bool) (h : ¬ HoldsConjunction literal) :
    Condition.IsOperand (written identifier negated literal hi hl).text := by
  refine ⟨?_, ?_, fun hholds => h ?_⟩
  · intro c hc
    obtain rfl : '$' = c := Option.some.inj hc
    decide
  · rw [Comparison.text_eq]
    exact EndsSolid.append ⟨'"' :: literal, '"', rfl, by decide⟩ _
  · have hsign : (if negated then '!' else '=') ∈ ['=', '!', '"'] := by cases negated <;> decide
    refine .of_comparison hsign (countP_reference hi) ?_
    cases negated <;>
      simpa [written, Comparison.text, Comparison.operator, Comparison.quoted] using hholds

/-- A written test survives the cutting if its literal holds no conjunction. -/
theorem IsWritable.isOperand_text (h : atom.IsWritable)
    (hliteral : ∀ literal ∈ atom.literal?, ¬ HoldsConjunction literal) :
    Condition.IsOperand atom.text := by
  rcases h.text_cases with ⟨identifier, hi, frame, hframe, htext⟩ |
    ⟨identifier, literal, negated, hi, hl, hfound, hatom⟩
  · -- Only comparisons are written with blanks.
    have hblanks : ∀ frame ∈ frames, frame.1 ≠ [] ∧ frame.1.any isBlank = false ∧
        frame.2.any isBlank = false := by decide
    obtain ⟨hne, hfront, hback⟩ := hblanks frame hframe
    rw [htext]
    refine .of_any (by simp [hne]) ?_
    rw [List.any_append, List.any_append, hfront, any_isBlank_identifier hi, hback]
    rfl
  · have hwritten := isOperand_written hi hl negated (hliteral literal hfound)
    rwa [text_written, ← hatom] at hwritten

/-- A written test has no ampersand outside its literal. -/
theorem IsWritable.notMem_text (h : atom.IsWritable)
    (hampersand : ∀ literal ∈ atom.literal?, '&' ∉ literal) : '&' ∉ atom.text := by
  have hidentifier {identifier : Text} (hi : isIdentifier identifier = true) : '&' ∉ identifier :=
    notMem_identifier hi (by decide)
  rcases h.text_cases with ⟨identifier, hi, frame, hframe, htext⟩ |
    ⟨identifier, literal, negated, hi, hl, hfound, hatom⟩
  · have hframes : ∀ frame ∈ frames, '&' ∉ frame.1 ∧ '&' ∉ frame.2 := by decide
    obtain ⟨hfront, hback⟩ := hframes frame hframe
    rw [htext, List.mem_append, List.mem_append, not_or, not_or]
    exact ⟨⟨hfront, hidentifier hi⟩, hback⟩
  · rw [hatom, ← text_written]
    cases negated <;>
      simpa [written, Comparison.text, Comparison.operator, Comparison.quoted] using
        ⟨hidentifier hi, hampersand literal hfound⟩

/-- A written test that survives the cutting is read back. -/
theorem IsWritable.parse_text (h : atom.IsWritable) (ho : Condition.IsOperand atom.text) :
    Atom.parse atom.text = atom := by
  have hreads := h.reads_text
  rw [← ho.strip_eq] at hreads
  exact hreads.parse_eq

/-- The literal of a test that is read stands in its text. -/
theorem infix_of_parse_eq {text literal : Text} (hparse : Atom.parse text = atom)
    (h : literal ∈ atom.literal?) : literal <:+: text := by
  have hread : ∃ identifier, Atom.parse text = .equals identifier literal ∨
      Atom.parse text = .notEquals identifier literal := by
    rw [hparse]
    cases atom with
    | equals identifier found =>
      obtain rfl : found = literal := Option.some.inj h
      exact ⟨identifier, Or.inl rfl⟩
    | notEquals identifier found =>
      obtain rfl : found = literal := Option.some.inj h
      exact ⟨identifier, Or.inr rfl⟩
    | _ => cases h
  obtain ⟨identifier, hread⟩ := hread
  obtain ⟨comparison, htext, -, -, rfl⟩ := exists_comparison_of_parse hread
  have hstrip : comparison.literal <:+: strip text := by
    rw [← htext, Comparison.text_eq]
    exact ⟨comparison.head ++ [comparison.opening], [comparison.closing], by simp [Comparison.quoted]⟩
  obtain ⟨front, back, -, -, he⟩ := exists_strip text
  exact hstrip.trans ⟨front, back, he.symm⟩

end Atom

/-! ## Written conditions -/

namespace Condition

/-- Nothing is decoded without an ampersand. -/
theorem decode_eq_self {text : Text} (h : '&' ∉ text) : decode text = text := by
  have hreference : ∀ entry ∈ references, '&' ∈ entry.1 := by decide
  refine replaceEach_eq_self (fun entry he => List.ne_nil_of_mem (hreference entry he)) ?_
  intro entry he hfound
  exact h (hfound.subset (hreference entry he))

/-- The tests of a condition; a conjunction inside another has none. -/
def atoms : Condition → List Atom
  | .test atom => [atom]
  | .all operands => operands.flatMap fun
    | .test atom => [atom]
    | .all _ => []

theorem atoms_ofAtoms (tests : List Atom) : (ofAtoms tests).atoms = tests := by
  have hall (several : List Atom) : (Condition.all (several.map .test)).atoms = several := by
    rw [atoms, List.flatMap_map]
    exact List.flatMap_singleton' several
  match tests with
  | [] => rfl
  | [_] => rfl
  | first :: second :: rest => exact hall (first :: second :: rest)

/-- **Reading written conditions.** Tests without ampersands that are written and joined by `and` are
read back, a single test as itself, exactly if no literal holds a conjunction. -/
theorem parse_text_iff {atoms : List Atom} (hne : atoms ≠ [])
    (h : ∀ atom ∈ atoms, atom.IsWritable)
    (hampersand : ∀ atom ∈ atoms, ∀ literal ∈ atom.literal?, '&' ∉ literal) :
    Condition.parse (Condition.text atoms) = .ofAtoms atoms ↔
      ∀ atom ∈ atoms, ∀ literal ∈ atom.literal?, ¬ HoldsConjunction literal := by
  constructor
  · intro hparse atom ha literal hl hholds
    have hpieces := Function.LeftInverse.injective atoms_ofAtoms hparse
    rw [← hpieces] at ha
    obtain ⟨piece, hp, hread⟩ := List.mem_map.1 ha
    obtain ⟨front, back, he⟩ := Atom.infix_of_parse_eq hread hl
    have hpiece := hholds.append front back
    rw [he] at hpiece
    exact not_holdsConjunction_of_mem hp hpiece
  · intro hliteral
    have hoperand (atom) (ha : atom ∈ atoms) : IsOperand atom.text :=
      (h atom ha).isOperand_text (hliteral atom ha)
    have hdecode : decode (Condition.text atoms) = Condition.text atoms := by
      refine decode_eq_self fun hmem => ?_
      rcases mem_joinWith hmem with hand | ⟨text, ht, hc⟩
      · exact absurd hand (by decide)
      · obtain ⟨atom, ha, rfl⟩ := List.mem_map.1 ht
        exact (h atom ha).notMem_text (hampersand atom ha) hc
    have hback : (atoms.map Atom.text).map Atom.parse = atoms := by
      have hid : atoms.map (Atom.parse ∘ Atom.text) = atoms.map id :=
        List.map_congr_left fun atom ha => (h atom ha).parse_text (hoperand atom ha)
      rw [List.map_map, hid, List.map_id]
    have hjoin := parse_joinWith (List.map_eq_nil_iff.not.2 hne) (List.forall_mem_map.2 hoperand)
      hdecode
    rw [hjoin, hback]

/-- Words that only look like conjunctions do not cut a literal. -/
theorem parse_text_iff_sand :
    let atoms : List Atom := [.notEmpty "A".toList, .equals "Site".toList "Sand and-y AND".toList,
      .notEquals "C_1".toList " or == ".toList, .truthy "and".toList]
    (∀ atom ∈ atoms, atom.IsWritable) ∧
      (∀ atom ∈ atoms, ∀ literal ∈ atom.literal?, '&' ∉ literal ∧ ¬ HoldsConjunction literal) ∧
      Condition.parse (Condition.text atoms) = .ofAtoms atoms := by
  intro atoms
  have hwritable : ∀ atom ∈ atoms, atom.IsWritable := by
    have hall : ∀ atom ∈ atoms, (∃ identifier ∈ atom.identifier?, isIdentifier identifier = true) ∧
        ∀ literal ∈ atom.literal?, '\n' ∉ literal := by
      decide +kernel
    intro atom ha
    obtain ⟨⟨identifier, hi⟩, hbreak⟩ := hall atom ha
    exact ⟨⟨identifier, hi⟩, hbreak⟩
  have hliteral : ∀ atom ∈ atoms, ∀ literal ∈ atom.literal?,
      '&' ∉ literal ∧ ¬ HoldsConjunction literal := by
    decide +kernel
  refine ⟨hwritable, hliteral, (parse_text_iff (List.cons_ne_nil _ _) hwritable ?_).2 ?_⟩
  · exact fun atom ha literal hl => (hliteral atom ha literal hl).1
  · exact fun atom ha literal hl => (hliteral atom ha literal hl).2

/-- A literal with the word `and` between blanks is cut, and two invalid tests are read. -/
theorem parse_text_ne :
    Condition.parse (Condition.text [.equals ['X'] "a and b".toList]) =
        .all [.test (.invalid "$X == \"a".toList), .test (.invalid "b\"".toList)] ∧
      Condition.parse (Condition.text [.equals ['X'] "a and b".toList]) ≠
        .ofAtoms [.equals ['X'] "a and b".toList] := by
  have hatoms : (splitConjunctions (strip (decode
      (Condition.text [.equals ['X'] "a and b".toList])))).map Atom.parse =
        [.invalid "$X == \"a".toList, .invalid "b\"".toList] := by
    decide +kernel
  have hparse : Condition.parse (Condition.text [.equals ['X'] "a and b".toList]) =
      .all [.test (.invalid "$X == \"a".toList), .test (.invalid "b\"".toList)] :=
    congrArg Condition.ofAtoms hatoms
  refine ⟨hparse, ?_⟩
  rw [hparse]
  exact Condition.noConfusion

end Condition

end FormLetter
