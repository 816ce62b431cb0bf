import FormLetter.Calendar.Layout
import FormLetter.Proofs.Text.Numeral

/-!
# What the items of a layout take

A layout tries the readings of its items in turn, and takes the first that lets the rest be read
too. Whichever it takes, an item for a number takes digits and reads them as their number.

* `LayoutItem.field?`, `LayoutItem.valueOf`: the field of an item, and what digits set it to.
* `IsNumeral`: a run of digits.
* `LayoutItem.Takes`, `exists_takes_of_mem_readings`: an item for a number takes a run of digits.
* `afterFolded?_eq_some`: a name is taken in any case.
* `eq_append_of_mem_blankRests`: blanks are taken one or more at a time.
-/

namespace FormLetter

open Text

/-- Whether a text is a run of digits. -/
def IsNumeral (digits : Text) : Prop := digits ≠ [] ∧ ∀ c ∈ digits, isDigit c = true

/-- The field that an item for a number sets. -/
def LayoutItem.field? : LayoutItem → Option DateField
  | .day => some .day
  | .month => some .month
  | .year | .shortYear => some .year
  | .hour => some .hour
  | .minute => some .minute
  | .second => some .second
  | _ => none

/-- The number of digits that an item takes, if it always takes the same. -/
def LayoutItem.width? : LayoutItem → Option Nat
  | .year => some 4
  | .shortYear => some 2
  | _ => none

/-- What an item for a number sets its field to when it takes some digits. -/
def LayoutItem.valueOf (item : LayoutItem) (digits : Text) : Nat :=
  let n := digitsValue digits
  if item = .shortYear then (if n ≤ 68 then 2000 + n else 1900 + n) else n

/-! ## Digits in front -/

/-- Whether a number is read from digits in front of a text. -/
def TakesNumber (text : Text) (n : Nat) (rest : Text) : Prop :=
  ∃ digits, IsNumeral digits ∧ text = digits ++ rest ∧ digitsValue digits = n

theorem digitValue?_of_asciiDigit? {c : Char} {n : Nat} (h : asciiDigit? c = some n) :
    digitValue? c = some n := by
  simp only [asciiDigit?, Option.ite_none_right_eq_some] at h
  obtain ⟨hdigit, hn⟩ := h
  obtain ⟨m, hm, rfl⟩ := exists_digitChar hdigit
  rw [digitValue?_digitChar hm, ← hn, Nat.toNat_digitChar_of_lt_ten hm, Nat.add_sub_cancel_left]

theorem isDigit_of_digitValue? {c : Char} {n : Nat} (h : digitValue? c = some n) :
    isDigit c = true := by
  rw [isDigit, h]
  rfl

variable {text rest : Text} {n : Nat}

theorem takesNumber_of_oneDigit? {test : Nat → Bool} (h : oneDigit? test text = some (n, rest)) :
    TakesNumber text n rest := by
  unfold oneDigit? at h
  split at h
  · rename_i a tail
    simp only [Option.bind_eq_bind, Option.bind_eq_some_iff, Option.ite_none_right_eq_some,
      Option.some.injEq, Prod.mk.injEq] at h
    obtain ⟨m, hm, -, rfl, rfl⟩ := h
    refine ⟨[a], ⟨List.cons_ne_nil _ _, ?_⟩, rfl, ?_⟩
    · exact List.forall_mem_singleton.2 (isDigit_of_digitValue? hm)
    · simp [digitsValue, hm]
  · cases h

theorem takesNumber_of_twoDigits? {first : Nat → Bool} {second : Nat → Nat → Bool}
    (h : twoDigits? first second text = some (n, rest)) : TakesNumber text n rest := by
  unfold twoDigits? at h
  split at h
  · rename_i a b tail
    simp only [Option.bind_eq_bind, Option.bind_eq_some_iff, Option.ite_none_right_eq_some,
      Option.some.injEq, Prod.mk.injEq] at h
    obtain ⟨high, hhigh, low, hlow, -, rfl, rfl⟩ := h
    have hfirst := digitValue?_of_asciiDigit? hhigh
    refine ⟨[a, b], ⟨List.cons_ne_nil _ _, ?_⟩, rfl, ?_⟩
    · exact List.forall_mem_cons.2 ⟨isDigit_of_digitValue? hfirst,
        List.forall_mem_singleton.2 (isDigit_of_digitValue? hlow)⟩
    · simp [digitsValue, hfirst, hlow]
  · cases h

theorem eq_append_of_fixedDigits? {width : Nat} (hw : width ≠ 0)
    (h : fixedDigits? width text = some (n, rest)) :
    ∃ digits, IsNumeral digits ∧ digits.length = width ∧ text = digits ++ rest ∧
      digitsValue digits = n := by
  simp only [fixedDigits?, Option.ite_none_right_eq_some, Option.some.injEq, Prod.mk.injEq] at h
  obtain ⟨⟨hlength, hdigits⟩, hn, rfl⟩ := h
  refine ⟨text.take width, ⟨?_, List.all_eq_true.1 hdigits⟩, hlength,
    (List.take_append_drop width text).symm, hn⟩
  intro hnil
  rw [hnil] at hlength
  exact hw hlength.symm

/-! ## Readings of numbers -/

theorem exists_of_mem_set {field : DateField} {found : List (Option (Nat × Text))}
    {reading : ItemReading}
    (h : reading ∈ found.filterMap fun entry =>
      entry.map fun (n, rest) => (⟨some (field, n), rest⟩ : ItemReading)) :
    ∃ n, some (n, reading.rest) ∈ found ∧ reading.field = some (field, n) := by
  obtain ⟨entry, he, hmap⟩ := List.mem_filterMap.1 h
  obtain ⟨⟨n, rest⟩, rfl, rfl⟩ := Option.map_eq_some_iff.1 hmap
  exact ⟨n, he, rfl⟩

/-- Whether an item for a number takes digits in front of a text, or, for a day, behind a blank. -/
structure LayoutItem.Takes (item : LayoutItem) (text digits : Text) (reading : ItemReading) :
    Prop where
  /-- What is taken are digits, -/
  isNumeral : IsNumeral digits
  /-- as many as the item needs, -/
  length_eq : ∀ width ∈ item.width?, digits.length = width
  /-- in front of the rest, -/
  text_eq : text = digits ++ reading.rest ∨ item = .day ∧ text = ' ' :: (digits ++ reading.rest)
  /-- and the field is set to them. -/
  field_eq : reading.field = item.field?.map (·, item.valueOf digits)

theorem TakesNumber.takes {item : LayoutItem} {field : DateField} {reading : ItemReading}
    (h : TakesNumber text n reading.rest) (hwidth : item.width? = none)
    (hf : item.field? = some field) (hr : reading.field = some (field, n)) :
    ∃ digits, item.Takes text digits reading := by
  obtain ⟨digits, hdigits, htext, rfl⟩ := h
  have hshort : item ≠ .shortYear := by
    rintro rfl
    cases hwidth
  refine ⟨digits, hdigits, ?_, Or.inl htext, ?_⟩
  · rw [hwidth]
    simp
  · rw [hr, hf, LayoutItem.valueOf, if_neg hshort]
    rfl

/-- An item for a number takes a run of digits, whichever of its readings is taken. -/
theorem exists_takes_of_mem_readings {item : LayoutItem} {reading : ItemReading}
    (hf : item.field?.isSome = true) (h : reading ∈ item.readings text) :
    ∃ digits, item.Takes text digits reading := by
  have hsingle {text rest : Text} {n : Nat}
      (h : (if isAsciiDigitAt text then oneDigit? (1 ≤ ·) text else none) = some (n, rest)) :
      TakesNumber text n rest := takesNumber_of_oneDigit? (Option.ite_none_right_eq_some.1 h).2
  cases item with
  | day =>
    obtain ⟨n, hmem, hr⟩ := exists_of_mem_set h
    simp only [List.mem_cons, List.not_mem_nil, or_false] at hmem
    rcases hmem with hmem | hmem | hmem | hmem | hmem
    · exact (takesNumber_of_twoDigits? hmem.symm).takes rfl rfl hr
    · exact (takesNumber_of_twoDigits? hmem.symm).takes rfl rfl hr
    · exact (takesNumber_of_twoDigits? hmem.symm).takes rfl rfl hr
    · exact (hsingle hmem.symm).takes rfl rfl hr
    · obtain ⟨hblank, hmem⟩ := Option.ite_none_right_eq_some.1 hmem.symm
      obtain ⟨tail, rfl⟩ := List.head?_eq_some_iff.1 hblank
      obtain ⟨digits, hdigits, htext, rfl⟩ := hsingle hmem
      exact ⟨digits, hdigits, by simp [LayoutItem.width?], Or.inr ⟨rfl, congrArg _ htext⟩, hr⟩
  | month =>
    obtain ⟨n, hmem, hr⟩ := exists_of_mem_set h
    simp only [List.mem_cons, List.not_mem_nil, or_false] at hmem
    rcases hmem with hmem | hmem | hmem
    · exact (takesNumber_of_twoDigits? hmem.symm).takes rfl rfl hr
    · exact (takesNumber_of_twoDigits? hmem.symm).takes rfl rfl hr
    · exact (hsingle hmem.symm).takes rfl rfl hr
  | year =>
    obtain ⟨n, hmem, hr⟩ := exists_of_mem_set h
    obtain ⟨digits, hdigits, hlength, htext, rfl⟩ :=
      eq_append_of_fixedDigits? (by decide) (List.mem_singleton.1 hmem).symm
    exact ⟨digits, hdigits, by simpa [LayoutItem.width?] using hlength, Or.inl htext, hr⟩
  | shortYear =>
    obtain ⟨n, hmem, hr⟩ := exists_of_mem_set h
    obtain ⟨⟨m, tail⟩, hfixed, heq⟩ := Option.map_eq_some_iff.1 (List.mem_singleton.1 hmem).symm
    obtain ⟨digits, hdigits, hlength, htext, rfl⟩ := eq_append_of_fixedDigits? (by decide) hfixed
    obtain ⟨rfl, rfl⟩ := Prod.mk.inj heq
    exact ⟨digits, hdigits, by simpa [LayoutItem.width?] using hlength, Or.inl htext, hr⟩
  | hour =>
    obtain ⟨n, hmem, hr⟩ := exists_of_mem_set h
    simp only [List.mem_cons, List.not_mem_nil, or_false] at hmem
    rcases hmem with hmem | hmem | hmem
    · exact (takesNumber_of_twoDigits? hmem.symm).takes rfl rfl hr
    · exact (takesNumber_of_twoDigits? hmem.symm).takes rfl rfl hr
    · exact (takesNumber_of_oneDigit? hmem.symm).takes rfl rfl hr
  | minute =>
    obtain ⟨n, hmem, hr⟩ := exists_of_mem_set h
    simp only [List.mem_cons, List.not_mem_nil, or_false] at hmem
    rcases hmem with hmem | hmem
    · exact (takesNumber_of_twoDigits? hmem.symm).takes rfl rfl hr
    · exact (takesNumber_of_oneDigit? hmem.symm).takes rfl rfl hr
  | second =>
    obtain ⟨n, hmem, hr⟩ := exists_of_mem_set h
    simp only [List.mem_cons, List.not_mem_nil, or_false] at hmem
    rcases hmem with hmem | hmem | hmem
    · exact (takesNumber_of_twoDigits? hmem.symm).takes rfl rfl hr
    · exact (takesNumber_of_twoDigits? hmem.symm).takes rfl rfl hr
    · exact (takesNumber_of_oneDigit? hmem.symm).takes rfl rfl hr
  | monthName => cases hf
  | monthAbbreviation => cases hf
  | weekdayName => cases hf
  | blanks => cases hf
  | char c => cases hf

/-! ## Readings of other items -/

/-- What is decided for the characters of a list, one by one. -/
theorem forall_mem_of_all {chars : List Char} {p : Char → Prop} [DecidablePred p]
    (h : (chars.all fun c => decide (p c)) = true) : ∀ c ∈ chars, p c :=
  fun c hc => of_decide_eq_true (List.all_eq_true.1 h c hc)

/-- What holds of the capital letters, one by one. -/
theorem forall_isUpper {p : Char → Prop} (h : ∀ n < 91, 65 ≤ n → p (Char.ofNat n)) :
    ∀ c : Char, c.isUpper = true → p c := by
  intro c hc
  obtain ⟨hlow, hhigh⟩ := of_decide_eq_true hc
  have hlow : 'A'.toNat ≤ c.toNat := hlow
  have hhigh : c.toNat ≤ 'Z'.toNat := hhigh
  rw [← Char.ofNat_toNat c]
  exact h c.toNat (Nat.lt_succ_of_le hhigh) hlow

theorem isLower_toLower : ∀ c : Char, c.isUpper = true → c.toLower.isLower = true :=
  forall_isUpper (by decide)

theorem toLower_eq_self {c : Char} (h : c.isUpper = false) : c.toLower = c :=
  dif_neg (of_decide_eq_false h)

/-- Only letters have more than one case. -/
theorem eq_of_toLower_eq {c d : Char} (hd : d.isAlpha = false) (h : c.toLower = d.toLower) :
    c = d := by
  obtain ⟨hupper, hlower⟩ := Bool.or_eq_false_iff.1 hd
  rw [toLower_eq_self hupper] at h
  cases hc : c.isUpper with
  | false => rw [← h, toLower_eq_self hc]
  | true =>
    have hletter := isLower_toLower c hc
    rw [h, hlower] at hletter
    cases hletter

theorem afterFolded?_eq_some {front : Text} (h : afterFolded? front text = some rest) :
    ∃ piece, text = piece ++ rest ∧ piece.map Char.toLower = front.map Char.toLower := by
  induction front generalizing text with
  | nil => exact ⟨[], Option.some.inj h, rfl⟩
  | cons c front ih =>
    cases text with
    | nil => cases h
    | cons d text =>
      obtain ⟨hcase, h⟩ := Option.ite_none_right_eq_some.1 h
      obtain ⟨piece, rfl, hpiece⟩ := ih h
      exact ⟨d :: piece, rfl, by rw [List.map_cons, List.map_cons, hcase, hpiece]⟩

theorem eq_append_of_mem_blankRests (h : rest ∈ blankRests text) :
    ∃ blanks, text = blanks ++ rest ∧ blanks ≠ [] ∧ ∀ c ∈ blanks, isBlank c = true := by
  induction text with
  | nil => cases h
  | cons c text ih =>
    unfold blankRests at h
    split at h
    · rename_i hc
      rcases List.mem_append.1 h with h | h
      · obtain ⟨blanks, rfl, -, hblanks⟩ := ih h
        exact ⟨c :: blanks, rfl, List.cons_ne_nil _ _, List.forall_mem_cons.2 ⟨hc, hblanks⟩⟩
      · rw [List.mem_singleton.1 h]
        exact ⟨[c], rfl, List.cons_ne_nil _ _, List.forall_mem_singleton.2 hc⟩
    · cases h

/-! ## Layouts -/

variable {items : List LayoutItem} {fields result : DateFields}

theorem readItems?_cons_eq_some {item : LayoutItem}
    (h : readItems? (item :: items) fields text = some (result, rest)) :
    ∃ reading ∈ item.readings text,
      readItems? items (fields.set reading.field) reading.rest = some (result, rest) :=
  List.exists_of_findSome?_eq_some h

theorem readLayout?_eq_some {moment : Moment} (h : readLayout? items text = some moment) :
    ∃ result, readItems? items {} text = some (result, []) ∧
      Moment.of? result.year result.month result.day result.hour result.minute result.second =
        some moment := by
  unfold readLayout? at h
  split at h
  · rename_i result hread
    exact ⟨result, hread, h⟩
  · cases h

end FormLetter
