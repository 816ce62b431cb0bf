import FormLetter.Text.Blank

/-!
# Cutting and stripping texts

A cut at a character leaves what stands in front of its first occurrence. Stripping takes blanks
away at the two ends, and nothing else.

* `cutAt_append`, `notMem_of_cutAt`: the first occurrence of a separator.
* `mem_joinWith`: the characters of joined texts.
* `strip_sublist`: a stripped text is part of the text.
* `stripRight_append_of_not_blank`: stripping at one end stops inside a part that is not blank.
* `exists_strip`, `strip_append_append`: stripping takes blanks away at the ends, and blanks at the
  ends do not matter to it.
-/

namespace FormLetter

namespace Text

/-! ## Cutting -/

theorem cutAt_append {separator : Char} {head : Text} (h : separator ∉ head) (tail : Text) :
    cutAt separator (head ++ separator :: tail) = (head, some tail) := by
  induction head with
  | nil => simp [cutAt]
  | cons c head ih =>
    rw [List.mem_cons, not_or] at h
    simp [cutAt, Ne.symm h.1, ih h.2]

theorem notMem_of_cutAt {separator : Char} {text head : Text} {tail : Option Text}
    (h : cutAt separator text = (head, tail)) : separator ∉ head := by
  induction text generalizing head with
  | nil =>
    simp only [cutAt, Prod.mk.injEq] at h
    simp [← h.1]
  | cons c rest ih =>
    simp only [cutAt] at h
    split at h
    · simp only [Prod.mk.injEq] at h
      simp [← h.1]
    · rename_i hc
      simp only [Prod.mk.injEq] at h
      rw [← h.1, List.mem_cons, not_or]
      exact ⟨Ne.symm hc, ih (Prod.ext rfl h.2)⟩

/-! ## Joining -/

theorem mem_joinWith {separator : Text} {pieces : List Text} {c : Char}
    (h : c ∈ joinWith separator pieces) : c ∈ separator ∨ ∃ piece ∈ pieces, c ∈ piece := by
  induction pieces with
  | nil => cases h
  | cons piece pieces ih =>
    by_cases hne : pieces = []
    · subst hne
      exact Or.inr ⟨piece, List.mem_cons_self, h⟩
    · rw [joinWith_cons _ _ hne, List.mem_append, List.mem_append] at h
      rcases h with (h | h) | h
      · exact Or.inr ⟨piece, List.mem_cons_self, h⟩
      · exact Or.inl h
      · refine (ih h).imp id ?_
        rintro ⟨other, ho, hc⟩
        exact ⟨other, List.mem_cons_of_mem _ ho, hc⟩

/-! ## Stripping -/

theorem strip_sublist (text : Text) : (strip text).Sublist text :=
  (stripRight_isPrefixOf _).sublist.trans (List.dropWhile_sublist _)

/-! ## Lengths -/

theorem length_stripRight_le (text : Text) : (stripRight text).length ≤ text.length :=
  (stripRight_isPrefixOf text).length_le

theorem length_stripLeft_lt {text : Text} (h : text.head?.any isBlank) :
    (stripLeft text).length < text.length := by
  cases text with
  | nil => simp at h
  | cons c rest =>
    simp only [List.head?_cons, Option.any_some] at h
    rw [stripLeft, List.dropWhile_cons, if_pos h, List.length_cons]
    exact Nat.lt_succ_of_le (length_stripLeft_le rest)

theorem length_stripRight_lt {text : Text} (h : text.getLast?.any isBlank) :
    (stripRight text).length < text.length := by
  have h : (stripLeft text.reverse).length < text.reverse.length :=
    length_stripLeft_lt (by rwa [List.head?_reverse])
  simpa [stripRight] using h

/-! ## Parts of a text -/

theorem stripLeft_eq_nil_iff {text : Text} : stripLeft text = [] ↔ isAllBlank text = true := by
  induction text with
  | nil => simp
  | cons c rest ih =>
    cases h : isBlank c with
    | true =>
      rw [stripLeft, List.dropWhile_cons, if_pos h, isAllBlank, List.all_cons, h, Bool.true_and]
      exact ih
    | false => simp [h]

theorem stripLeft_append_of_blank {front : Text} (h : isAllBlank front = true) (text : Text) :
    stripLeft (front ++ text) = stripLeft text :=
  List.dropWhile_append_of_pos (List.all_eq_true.1 h)

theorem stripLeft_append_of_not_blank {text : Text} (h : isAllBlank text = false) (back : Text) :
    stripLeft (text ++ back) = stripLeft text ++ back := by
  have hne : stripLeft text ≠ [] := by
    rw [Ne, stripLeft_eq_nil_iff, h]
    exact Bool.false_ne_true
  rw [stripLeft, List.dropWhile_append, if_neg]
  rwa [List.isEmpty_iff]

theorem stripRight_append_of_blank {back : Text} (h : isAllBlank back = true) (text : Text) :
    stripRight (text ++ back) = stripRight text := by
  rw [stripRight, List.reverse_append, stripLeft_append_of_blank, stripRight]
  rwa [isAllBlank, List.all_reverse]

/-- Stripping at the right end stops inside a part that is not blank. -/
theorem stripRight_append_of_not_blank {text : Text} (h : isAllBlank text = false) (front : Text) :
    stripRight (front ++ text) = front ++ stripRight text := by
  rw [stripRight, List.reverse_append, stripLeft_append_of_not_blank, List.reverse_append,
    List.reverse_reverse, stripRight]
  rwa [isAllBlank, List.all_reverse]

/-! ## Blanks at the ends -/

theorem exists_stripLeft (text : Text) :
    ∃ front, isAllBlank front = true ∧ text = front ++ stripLeft text :=
  ⟨text.takeWhile isBlank, List.all_takeWhile, List.takeWhile_append_dropWhile.symm⟩

theorem exists_stripRight (text : Text) :
    ∃ back, isAllBlank back = true ∧ text = stripRight text ++ back := by
  obtain ⟨front, hf, he⟩ := exists_stripLeft text.reverse
  refine ⟨front.reverse, by rwa [isAllBlank, List.all_reverse], ?_⟩
  rw [stripRight, ← List.reverse_append, ← he, List.reverse_reverse]

/-- Stripping takes blanks away at the two ends. -/
theorem exists_strip (text : Text) :
    ∃ front back, isAllBlank front = true ∧ isAllBlank back = true ∧
      text = front ++ strip text ++ back := by
  obtain ⟨front, hf, hfront⟩ := exists_stripLeft text
  obtain ⟨back, hb, hback⟩ := exists_stripRight (stripLeft text)
  refine ⟨front, back, hf, hb, ?_⟩
  rw [strip, List.append_assoc, ← hback, ← hfront]

/-- Blanks at the two ends do not matter to stripping. -/
theorem strip_append_append {front back : Text} (hf : isAllBlank front = true)
    (hb : isAllBlank back = true) (text : Text) : strip (front ++ text ++ back) = strip text := by
  rw [List.append_assoc, strip, stripLeft_append_of_blank hf, strip]
  cases h : isAllBlank text with
  | true =>
    rw [stripLeft_append_of_blank h, stripLeft_eq_nil_iff.2 h, stripLeft_eq_nil_iff.2 hb]
  | false => rw [stripLeft_append_of_not_blank h, stripRight_append_of_blank hb]

theorem strip_stripLeft (text : Text) : strip (stripLeft text) = strip text := by
  obtain ⟨front, hf, he⟩ := exists_stripLeft text
  have h := strip_append_append hf (List.all_nil) (stripLeft text)
  rw [List.append_nil, ← he] at h
  exact h.symm

theorem strip_stripRight (text : Text) : strip (stripRight text) = strip text := by
  obtain ⟨back, hb, he⟩ := exists_stripRight text
  have h := strip_append_append (List.all_nil) hb (stripRight text)
  rw [List.nil_append, ← he] at h
  exact h.symm

/-! ## Texts that end in another character -/

/-- A text whose last character is no blank. -/
def EndsSolid (text : Text) : Prop := ∃ front c, text = front ++ [c] ∧ isBlank c = false

/-- A text without blanks ends in another character. -/
theorem endsSolid_of_any {text : Text} (hne : text ≠ []) (h : text.any isBlank = false) :
    EndsSolid text := by
  refine ⟨text.dropLast, text.getLast hne, (List.dropLast_concat_getLast hne).symm, ?_⟩
  simpa using List.any_eq_false.1 h _ (List.getLast_mem hne)

theorem EndsSolid.append {back : Text} (h : EndsSolid back) (front : Text) :
    EndsSolid (front ++ back) := by
  obtain ⟨middle, c, rfl, hc⟩ := h
  exact ⟨front ++ middle, c, (List.append_assoc _ _ _).symm, hc⟩

theorem endsSolid_append_flatMap {α : Type} {front : Text} {f : α → Text} {items : List α}
    (hf : EndsSolid front) (h : ∀ item ∈ items, EndsSolid (f item)) :
    EndsSolid (front ++ items.flatMap f) := by
  induction items generalizing front with
  | nil => rwa [List.flatMap_nil, List.append_nil]
  | cons item items ih =>
    obtain ⟨hitem, hitems⟩ := List.forall_mem_cons.1 h
    rw [List.flatMap_cons, ← List.append_assoc]
    exact ih (hitem.append front) hitems

/-- A text without blanks at its ends stays as it is. -/
theorem strip_of_endsSolid {text : Text} (hhead : ∀ c ∈ text.head?, isBlank c = false)
    (h : EndsSolid text) : strip text = text := by
  rw [strip, stripLeft_eq_self hhead, stripRight_eq_self]
  obtain ⟨front, d, rfl, hd⟩ := h
  simpa using hd

theorem strip_cons_of_endsSolid {c : Char} {text : Text} (hc : isBlank c = false)
    (h : EndsSolid text) : strip (c :: text) = c :: text :=
  strip_of_endsSolid (by simpa using hc) (h.append [c])

/-- A word character is no blank. -/
theorem isBlank_of_isWordChar {c : Char} (h : isWordChar c = true) : isBlank c = false := by
  have between {low high : Char} (hb : (c.val ≥ low.val && c.val ≤ high.val) = true) :
      low.toNat ≤ c.toNat ∧ c.toNat ≤ high.toNat := by
    simpa [UInt32.le_iff_toNat_le] using hb
  have hrange : 0x30 ≤ c.toNat ∧ c.toNat ≤ 0x7A := by
    have hends : 'A'.toNat = 0x41 ∧ 'Z'.toNat = 0x5A ∧ 'a'.toNat = 0x61 ∧ 'z'.toNat = 0x7A ∧
        '0'.toNat = 0x30 ∧ '9'.toNat = 0x39 := by decide
    rcases Bool.or_eq_true_iff.1 h with h | h
    · rcases Bool.or_eq_true_iff.1 h with h | h
      · rcases Bool.or_eq_true_iff.1 h with h | h
        · have hu : c.val ≥ 'A'.val ∧ c.val ≤ 'Z'.val := of_decide_eq_true h
          have := @between 'A' 'Z' (by simpa using hu)
          omega
        · have := @between 'a' 'z' h
          omega
      · have := @between '0' '9' h
        omega
    · rw [eq_of_beq h]
      decide
  simp only [isBlank, Bool.or_eq_false_iff, Bool.and_eq_false_iff, beq_eq_false_iff_ne,
    decide_eq_false_iff_not]
  omega

end Text

end FormLetter
