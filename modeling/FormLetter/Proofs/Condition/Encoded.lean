import FormLetter.Proofs.Condition.Written
import FormLetter.Proofs.Text.Simultaneous
import FormLetter.Render

/-!
# Escaped values in conditions

A value that is escaped for markup may stand in a condition as the literal of a comparison. Decoding
takes the references for `&`, the quotes and the dollar sign back, the ampersand first; it leaves
those for `<` and `>`, and it decodes again what the decoded ampersands make into a reference.

* `Condition.literalOf`: the literal that an escaped value is read as.
* `Condition.replaceAll_escape`: the first decoding undoes the escaping of ampersands and no more.
* `Condition.decode_comparison`: a comparison with an escaped value, decoded.
* `Condition.literalOf_eq_self_iff`: the values that are read back.
* `Condition.parse_escapeValue`: a comparison with an escaped value is one with the value exactly
  if the value has no angle bracket and holds no reference.
-/

namespace FormLetter

open Text

/-! ## Texts around and inside replacements -/

namespace Text

/-- Text in front that has no first character of a sought text is passed over. -/
theorem replaceEach_append_of_notMem {table : List (Text × Text)} {front : Text}
    (h : ∀ entry ∈ table, entry.1 ≠ [] ∧ ∀ c ∈ entry.1.head?, c ∉ front) (text : Text) :
    replaceEach table (front ++ text) = front ++ replaceEach table text := by
  induction table generalizing text with
  | nil => rfl
  | cons entry table ih =>
    obtain ⟨⟨hne, hfront⟩, htable⟩ := List.forall_mem_cons.1 h
    rw [replaceEach_cons, replaceAll_append_of_notMem hne hfront, ih htable, replaceEach_cons]

theorem replaceAll_ne_nil {sought new text : Text} (hs : sought ≠ []) (hn : new ≠ [])
    (ht : text ≠ []) : replaceAll sought new text ≠ [] := by
  revert ht
  refine replaceAll_induction hs (motive := fun t r => t ≠ [] → r ≠ []) id ?_ ?_ text
  · intro tail _ _
    exact List.append_ne_nil_of_left_ne_nil hn _
  · intro c rest _ _ _
    exact List.cons_ne_nil _ _

theorem replaceEach_ne_nil {table : List (Text × Text)}
    (h : ∀ entry ∈ table, entry.1 ≠ [] ∧ entry.2 ≠ []) {text : Text} (ht : text ≠ []) :
    replaceEach table text ≠ [] := by
  induction table generalizing text with
  | nil => exact ht
  | cons entry table ih =>
    obtain ⟨⟨hs, hn⟩, htable⟩ := List.forall_mem_cons.1 h
    exact ih htable (replaceAll_ne_nil hs hn ht)

theorem replaceEach_append (table others : List (Text × Text)) (text : Text) :
    replaceEach (table ++ others) text = replaceEach others (replaceEach table text) :=
  List.foldl_append

end Text

namespace Condition

/-! ## Decoding an escaped value -/

/-- The replacements that are left when the ampersands are escaped and decoded. -/
def leftover : List (Text × Text) := markupEscapes.tail ++ references.tail

/-- The literal that an escaped value is read as. -/
def literalOf (value : Text) : Text := replaceEach leftover value

theorem replaceAtOnce_single {table : List (Text × Text)} {c : Char} {new rest : Text}
    (h : entryAtFront? table (c :: rest) = some ([c], new)) :
    replaceAtOnce table (c :: rest) = new ++ replaceAtOnce table rest :=
  @replaceAtOnce_of_eq_some table ([c], new) (List.cons_ne_nil c []) rest h

/-- A reference for another character is passed over where ampersands are decoded. -/
theorem replaceAll_ampersand_append {c : Char} {name : Text} (hc : c ≠ 'a') (hname : '&' ∉ c :: name)
    (text : Text) :
    replaceAll "&amp;".toList ['&'] ('&' :: c :: name ++ text) =
      '&' :: c :: name ++ replaceAll "&amp;".toList ['&'] text := by
  have hfront : ¬ "&amp;".toList <+: '&' :: (c :: name ++ text) := by
    intro h
    obtain ⟨-, hrest⟩ := List.cons_prefix_cons.1 h
    obtain ⟨ha, -⟩ := List.cons_prefix_cons.1 hrest
    exact hc ha.symm
  have hhead : ∀ d ∈ "&amp;".toList.head?, d ∉ c :: name := by
    intro d hd
    obtain rfl : '&' = d := Option.some.inj hd
    exact hname
  show replaceAll _ _ ('&' :: (c :: name ++ text)) = '&' :: (c :: name ++ _)
  rw [replaceAll_cons_of_not_isPrefix (by decide) hfront,
    replaceAll_append_of_notMem (by decide) hhead]

/-- Decoding the ampersands undoes their escaping, and leaves the other escapes. -/
theorem replaceAll_escape (value : Text) :
    replaceAll "&amp;".toList ['&'] (replaceEach markupEscapes value) =
      replaceEach markupEscapes.tail value := by
  rw [replaceEach_eq_replaceAtOnce (by decide), replaceEach_eq_replaceAtOnce (by decide)]
  induction value with
  | nil => rw [replaceAtOnce_nil, replaceAtOnce_nil, replaceAll_nil]
  | cons c rest ih =>
    by_cases hampersand : c = '&'
    · subst hampersand
      rw [replaceAtOnce_single rfl, replaceAll_append_self (by decide), ih,
        replaceAtOnce_of_eq_none rfl]
      rfl
    by_cases hless : c = '<'
    · subst hless
      rw [replaceAtOnce_single rfl, replaceAtOnce_single rfl, ← ih]
      exact replaceAll_ampersand_append (by decide) (by decide) _
    by_cases hgreater : c = '>'
    · subst hgreater
      rw [replaceAtOnce_single rfl, replaceAtOnce_single rfl, ← ih]
      exact replaceAll_ampersand_append (by decide) (by decide) _
    · have hnone {table : List (Text × Text)} (ht : table ⊆ markupEscapes) :
          entryAtFront? table (c :: rest) = none := by
        refine List.find?_eq_none.2 fun entry he hp => ?_
        have hsought : entry.1 = ['&'] ∨ entry.1 = ['<'] ∨ entry.1 = ['>'] :=
          (by decide : ∀ e ∈ markupEscapes, e.1 = ['&'] ∨ e.1 = ['<'] ∨ e.1 = ['>']) entry (ht he)
        rw [List.isPrefixOf_iff_prefix] at hp
        rcases hsought with hsought | hsought | hsought <;> rw [hsought] at hp
        · exact hampersand (List.cons_prefix_cons.1 hp).1.symm
        · exact hless (List.cons_prefix_cons.1 hp).1.symm
        · exact hgreater (List.cons_prefix_cons.1 hp).1.symm
      have hfront : ¬ "&amp;".toList <+: c :: replaceAtOnce markupEscapes rest := fun hp =>
        hampersand (List.cons_prefix_cons.1 hp).1.symm
      rw [replaceAtOnce_of_eq_none (hnone (List.Subset.refl _)),
        replaceAtOnce_of_eq_none (hnone (List.tail_subset _)),
        replaceAll_cons_of_not_isPrefix (by decide) hfront, ih]

/-- Text without ampersands in front is not decoded. -/
theorem decode_append {front : Text} (h : '&' ∉ front) (text : Text) :
    decode (front ++ text) = front ++ decode text := by
  refine replaceEach_append_of_notMem (fun entry he => ?_) text
  have hhead : entry.1.head? = some '&' :=
    (by decide : ∀ e ∈ references, e.1.head? = some '&') entry he
  refine ⟨?_, ?_⟩
  · intro hn
    rw [hn] at hhead
    cases hhead
  · intro c hc
    rw [hhead] at hc
    rwa [← Option.some.inj hc]

/-- A quote behind a text is not decoded. -/
theorem decode_append_quote (text : Text) : decode (text ++ ['"']) = decode text ++ ['"'] := by
  have hquote : ∀ entry ∈ references, entry.1 ≠ [] ∧ '"' ∉ entry.1 := by decide
  have hback : ∀ entry ∈ references, entry.1 ≠ [] ∧ ∀ c ∈ [] ++ ['"'], c ∉ entry.1 := by
    intro entry he
    refine ⟨(hquote entry he).1, fun c hc => ?_⟩
    rw [List.mem_singleton.1 hc]
    exact (hquote entry he).2
  exact replaceEach_append_append hback text

theorem decode_escapeValue (value : Text) : decode (escapeValue false value) = literalOf value := by
  show replaceEach references.tail (replaceAll _ _ (replaceEach markupEscapes value)) = _
  rw [literalOf, leftover, replaceEach_append, ← replaceAll_escape]

/-- A comparison with an escaped value, decoded. -/
theorem decode_comparison {identifier : Text} (hi : isIdentifier identifier = true) (value : Text) :
    decode (Atom.equals identifier (escapeValue false value)).text =
      (Atom.equals identifier (literalOf value)).text := by
  have hidentifier : '&' ∉ identifier := notMem_identifier hi (by decide)
  have hfront : '&' ∉ '$' :: identifier ++ " == \"".toList := by
    rw [List.mem_append, List.mem_cons, not_or, not_or]
    exact ⟨⟨by decide, hidentifier⟩, by decide⟩
  show decode (('$' :: identifier ++ " == \"".toList) ++ escapeValue false value ++ ['"']) = _
  rw [decode_append_quote, decode_append hfront, decode_escapeValue]
  rfl

/-! ## The literal -/

theorem literalOf_ne_nil {value : Text} (h : value ≠ []) : literalOf value ≠ [] :=
  replaceEach_ne_nil (by decide) h

/-- The literal of a value without blanks has none. -/
theorem any_isBlank_literalOf {value : Text} (h : value.any isBlank = false) :
    (literalOf value).any isBlank = false := by
  have hentries : ∀ entry ∈ leftover, entry.2.any isBlank = false := by decide
  refine List.any_eq_false.2 fun c hc => ?_
  rcases mem_replaceEach (by decide) hc with ⟨entry, he, hnew⟩ | hvalue
  · exact List.any_eq_false.1 (hentries entry he) c hnew
  · exact List.any_eq_false.1 h c hvalue

/-- No literal of an escaped value has an angle bracket. -/
theorem notMem_literalOf {c : Char} (hc : c = '<' ∨ c = '>') (value : Text) :
    c ∉ literalOf value := by
  have hclean : Clean markupEscapes.tail (replaceEach markupEscapes.tail value) :=
    clean_replaceEach (by decide) value
  have hgone : c ∉ replaceEach markupEscapes.tail value := by
    rcases hc with rfl | rfl
    · exact notMem_of_clean hclean (by decide)
    · exact notMem_of_clean hclean (by decide)
  rw [literalOf, leftover, replaceEach_append]
  intro hmem
  rcases mem_replaceEach (by decide) hmem with ⟨entry, he, hnew⟩ | hvalue
  · have hreference := (by decide : ∀ e ∈ references.tail, '<' ∉ e.2 ∧ '>' ∉ e.2) entry he
    rcases hc with rfl | rfl
    · exact hreference.1 hnew
    · exact hreference.2 hnew
  · exact hgone hvalue

/-- The values that survive escaping and decoding: they have no angle bracket and hold no reference
for a quote or the dollar sign. -/
def IsKept (value : Text) : Prop := '<' ∉ value ∧ '>' ∉ value ∧ Clean references.tail value

theorem literalOf_eq_self_iff {value : Text} : literalOf value = value ↔ IsKept value := by
  have hangles (hless : '<' ∉ value) (hgreater : '>' ∉ value) :
      replaceEach markupEscapes.tail value = value := by
    refine replaceEach_eq_self (by decide) fun entry he hfound => ?_
    have hsought : '<' ∈ entry.1 ∨ '>' ∈ entry.1 :=
      (by decide : ∀ e ∈ markupEscapes.tail, '<' ∈ e.1 ∨ '>' ∈ e.1) entry he
    rcases hsought with hmem | hmem
    · exact hless (hfound.subset hmem)
    · exact hgreater (hfound.subset hmem)
  have hreferences : Separating references.tail := by decide
  constructor
  · intro h
    have hless : '<' ∉ value := h ▸ notMem_literalOf (Or.inl rfl) value
    have hgreater : '>' ∉ value := h ▸ notMem_literalOf (Or.inr rfl) value
    rw [literalOf, leftover, replaceEach_append, hangles hless hgreater] at h
    exact ⟨hless, hgreater, (replaceEach_eq_self_iff hreferences).1 h⟩
  · rintro ⟨hless, hgreater, hclean⟩
    rw [literalOf, leftover, replaceEach_append, hangles hless hgreater]
    exact (replaceEach_eq_self_iff hreferences).2 hclean

/-! ## Comparisons with escaped values -/

/-- A comparison holds where the identifier has the literal as its value, if it is not empty. -/
theorem evaluate_equals_iff {identifier literal : Text} (h : literal ≠ []) (scope : Scope) :
    ((Condition.test (.equals identifier literal)).evaluate scope.valueOf).1 = true ↔
      scope.value? identifier = some literal := by
  show decide (scope.valueOf identifier = literal) = true ↔ _
  rw [decide_eq_true_eq, Scope.valueOf]
  cases scope.value? identifier with
  | none => simp [h.symm]
  | some value => simp

/-- What a comparison with an escaped value is read as. -/
theorem parse_equals_escapeValue {identifier value : Text} (hi : isIdentifier identifier = true)
    (hb : value.any isBlank = false) :
    Condition.parse (Atom.equals identifier (escapeValue false value)).text =
      .test (.equals identifier (literalOf value)) := by
  have hblank := any_isBlank_literalOf hb
  have hbreak : '\n' ∉ literalOf value := fun hmem =>
    absurd (by decide) (List.any_eq_false.1 hblank '\n' hmem)
  have hholds : ¬ HoldsConjunction (literalOf value) := by
    apply not_holdsConjunction_of_countP
    rw [List.countP_eq_zero.2 (List.any_eq_false.1 hblank)]
    decide
  have hwritable : (Atom.equals identifier (literalOf value)).IsWritable := by
    refine ⟨⟨identifier, rfl, hi⟩, fun literal hl => ?_⟩
    rwa [← Option.some.inj hl]
  have hoperand : IsOperand (Atom.equals identifier (literalOf value)).text := by
    refine hwritable.isOperand_text fun literal hl => ?_
    rwa [← Option.some.inj hl]
  have hjoin := parse_joinWith (List.cons_ne_nil _ []) (List.forall_mem_singleton.2 hoperand)
    (decode_comparison hi value)
  rw [hjoin, List.map_singleton, hwritable.parse_text hoperand]
  rfl

/-- **Escaped values in conditions.** A comparison with an escaped value is one with what is left of
the value after decoding, and holds where the identifier has that as its value. It is the comparison
with the value exactly if the value survives escaping and decoding; then it holds exactly where the
identifier has the value. -/
theorem parse_escapeValue {identifier value : Text} (hi : isIdentifier identifier = true)
    (hne : value ≠ []) (hb : value.any isBlank = false) :
    let condition := Condition.parse (Atom.equals identifier (escapeValue false value)).text
    condition = .test (.equals identifier (literalOf value)) ∧
      (∀ scope : Scope, (condition.evaluate scope.valueOf).1 = true ↔
        scope.value? identifier = some (literalOf value)) ∧
      (condition = .test (.equals identifier value) ↔ IsKept value) ∧
      (IsKept value → ∀ scope : Scope, (condition.evaluate scope.valueOf).1 = true ↔
        scope.value? identifier = some value) := by
  intro condition
  have hparse : condition = .test (.equals identifier (literalOf value)) :=
    parse_equals_escapeValue hi hb
  have hholds (scope : Scope) : (condition.evaluate scope.valueOf).1 = true ↔
      scope.value? identifier = some (literalOf value) := by
    rw [hparse]
    exact evaluate_equals_iff (literalOf_ne_nil hne) scope
  refine ⟨hparse, hholds, ?_, ?_⟩
  · rw [hparse, ← literalOf_eq_self_iff]
    constructor
    · intro h
      exact (Atom.equals.inj (Condition.test.inj h)).2
    · intro h
      rw [h]
  · intro hkept scope
    rw [hholds scope, literalOf_eq_self_iff.2 hkept]

/-- A value with ampersands, one of them in front of the name of another reference. -/
theorem parse_escapeValue_ampersands :
    let value := "R&D&lt;".toList
    value ≠ [] ∧ value.any isBlank = false ∧ IsKept value ∧
      Condition.parse (Atom.equals ['X'] (escapeValue false value)).text =
        .test (.equals ['X'] value) ∧
      ∀ scope : Scope, ((Condition.parse (Atom.equals ['X'] (escapeValue false value)).text).evaluate
        scope.valueOf).1 = true ↔ scope.value? ['X'] = some value := by
  intro value
  have hkept : IsKept value := literalOf_eq_self_iff.1 (by decide +kernel)
  have hidentifier : isIdentifier ['X'] = true := by decide
  have hne : value ≠ [] := by decide
  have hblank : value.any isBlank = false := by decide
  obtain ⟨-, -, hread, hholds⟩ := parse_escapeValue hidentifier hne hblank
  exact ⟨hne, hblank, hkept, hread.2 hkept, hholds hkept⟩

/-- An angle bracket is left escaped, and an ampersand in front of the name of a quote is decoded
twice. -/
theorem parse_escapeValue_ne :
    Condition.parse (Atom.equals ['X'] (escapeValue false ['<'])).text =
        .test (.equals ['X'] "&lt;".toList) ∧
      Condition.parse (Atom.equals ['X'] (escapeValue false "&quot;".toList)).text =
        .test (.equals ['X'] ['"']) ∧
      ∀ value ∈ [['<'], "&quot;".toList],
        Condition.parse (Atom.equals ['X'] (escapeValue false value)).text ≠
          .test (.equals ['X'] value) := by
  have hangle : Condition.parse (Atom.equals ['X'] (escapeValue false ['<'])).text =
      .test (.equals ['X'] "&lt;".toList) := by
    have hatoms : (splitConjunctions (strip (decode
        (Atom.equals ['X'] (escapeValue false ['<'])).text))).map Atom.parse =
          [.equals ['X'] "&lt;".toList] := by
      decide +kernel
    exact congrArg Condition.ofAtoms hatoms
  have hquote : Condition.parse (Atom.equals ['X'] (escapeValue false "&quot;".toList)).text =
      .test (.equals ['X'] ['"']) := by
    have hatoms : (splitConjunctions (strip (decode
        (Atom.equals ['X'] (escapeValue false "&quot;".toList)).text))).map Atom.parse =
          [.equals ['X'] ['"']] := by
      decide +kernel
    exact congrArg Condition.ofAtoms hatoms
  refine ⟨hangle, hquote, List.forall_mem_cons.2 ⟨?_, List.forall_mem_singleton.2 ?_⟩⟩
  · rw [hangle]
    simp
  · rw [hquote]
    simp

end Condition

end FormLetter
