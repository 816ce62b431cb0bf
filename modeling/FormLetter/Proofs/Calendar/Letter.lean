import FormLetter.Calendar.Rendering
import FormLetter.Proofs.Calendar.Piece

/-!
# What patterns write

A pattern is made of letters, each of which writes a number or a name, and of gaps, which write
themselves. Where a gap or nothing stands behind every letter, the pieces can be told apart.

* `dateLetters`, `dateGaps`: the letters and gaps of the usual patterns.
* `Moment.piece`, `Moment.render_eq_flatMap`: a pattern writes a piece for each of its characters.
* `isReadable`: patterns with a gap or nothing behind every letter.
* `Moment.piece_cases`: a letter writes digits, or a name without digits and blanks.
* `Moment.mem_dateGaps_of_mem_head`, `Moment.isBlank_of_mem_head`: what stands in front of what the
  rest of a pattern writes.
-/

namespace FormLetter

open Text

/-! ## Letters and gaps -/

/-- The letters of a pattern that a layout has an item for. -/
def dateLetters : List Char := ['d', 'j', 'm', 'F', 'M', 'Y', 'H', 'i', 's']

/-- What may stand between letters. -/
def dateGaps : List Char := [' ', '/', '-', '.', ':', ',']

/-- What a character of a pattern stands for. -/
def Moment.piece (moment : Moment) (c : Char) : Text := (renderLetter? moment c).getD [c]

/-- Whether a pattern has a gap or nothing behind every letter, and a letter behind every blank. -/
def isReadable : Text → Bool
  | [] => true
  | c :: pattern =>
    (dateLetters.contains c && pattern.head?.all dateGaps.contains ||
      dateGaps.contains c && (c != ' ' || pattern.head?.any dateLetters.contains)) &&
      isReadable pattern

variable {pattern : Text} {c : Char}

theorem Moment.render_eq_flatMap (moment : Moment) (h : '\\' ∉ pattern) :
    moment.render pattern = pattern.flatMap moment.piece := by
  induction pattern with
  | nil => rfl
  | cons c pattern ih =>
    obtain ⟨hc, hpattern⟩ := List.ne_and_not_mem_of_not_mem_cons h
    rw [Moment.render, ih hpattern, List.flatMap_cons, Moment.piece]
    · rintro d front rfl
      exact absurd rfl hc
    · rintro rfl
      exact absurd rfl hc

theorem isDigit_of_mem_dateGaps : ∀ c ∈ dateGaps, isDigit c = false :=
  forall_mem_of_all (by decide)

theorem Moment.piece_of_mem_dateGaps (moment : Moment) (h : c ∈ dateGaps) :
    moment.piece c = [c] := by
  simp only [dateGaps, List.mem_cons, List.not_mem_nil, or_false] at h
  rcases h with rfl | rfl | rfl | rfl | rfl | rfl <;> rfl

theorem isReadable_cons (h : isReadable (c :: pattern) = true) :
    (c ∈ dateLetters ∧ (∀ d ∈ pattern.head?, d ∈ dateGaps) ∨
      c ∈ dateGaps ∧ (c = ' ' → ∃ d ∈ pattern.head?, d ∈ dateLetters)) ∧
      isReadable pattern = true := by
  simpa [isReadable, Option.all_eq_true, Option.any_eq_true, Decidable.imp_iff_not_or] using h

theorem notMem_of_isReadable (h : isReadable pattern = true) : '\\' ∉ pattern := by
  induction pattern with
  | nil => exact List.not_mem_nil
  | cons c pattern ih =>
    obtain ⟨hc, hpattern⟩ := isReadable_cons h
    refine List.not_mem_cons_of_ne_of_not_mem ?_ (ih hpattern)
    rintro rfl
    rcases hc with ⟨hc, -⟩ | ⟨hc, -⟩
    · exact absurd hc (by decide)
    · exact absurd hc (by decide)

theorem Moment.render_cons_of_isReadable (moment : Moment) (h : isReadable (c :: pattern) = true) :
    moment.render (c :: pattern) = moment.piece c ++ moment.render pattern := by
  rw [moment.render_eq_flatMap (notMem_of_isReadable h), List.flatMap_cons,
    moment.render_eq_flatMap (notMem_of_isReadable (isReadable_cons h).2)]

/-! ## What letters write -/

theorem isNumeral_ofNat (n : Nat) : IsNumeral (ofNat n) := by
  refine ⟨Nat.toDigits_ne_nil, fun c hc => ?_⟩
  obtain ⟨m, hm, rfl⟩ := exists_digitChar (Nat.isDigit_of_mem_toDigits (by decide) (by decide) hc)
  exact isDigit_digitChar hm

theorem isNumeral_padded (width n : Nat) : IsNumeral (padded width n) := by
  obtain ⟨hne, hdigits⟩ := isNumeral_ofNat n
  refine ⟨List.append_ne_nil_of_right_ne_nil _ hne, fun c hc => ?_⟩
  rcases List.mem_append.1 hc with hc | hc
  · rw [List.eq_of_mem_replicate hc]
    exact isDigit_digitChar (by decide : 0 < 10)
  · exact hdigits c hc

theorem Date.day_le (date : Date) : date.day ≤ 31 :=
  Nat.le_trans date.valid.2.2 (daysInMonth_le _ _)

/-- The fields of a day have no more than four, two and two digits. -/
theorem Date.lt_width (date : Date) : date.year < 10000 ∧ date.month < 100 ∧ date.day < 100 := by
  obtain ⟨⟨-, hyear⟩, -⟩ := date.valid
  exact ⟨Nat.lt_succ_of_le hyear, Nat.lt_of_le_of_lt date.month_le.2 (by decide),
    Nat.lt_of_le_of_lt date.day_le (by decide)⟩

/-- The name of a month. -/
def monthName (month : Nat) : String := (monthNames[month - 1]?).getD ""

theorem monthName_mem {month : Nat} (h : 1 ≤ month ∧ month ≤ 12) :
    monthName month ∈ monthNames := by
  have hlength : monthNames.length = 12 := rfl
  have hlt : month - 1 < monthNames.length := by omega
  rw [monthName, List.getElem?_eq_getElem hlt]
  exact List.getElem_mem hlt

/-- A name of a month has neither digits nor blanks. -/
theorem Moment.piece_name (moment : Moment) (h : c ∈ ['F', 'M']) :
    moment.piece c ≠ [] ∧ ∀ d ∈ moment.piece c, isBlank d = false ∧ isDigit d = false := by
  have hname : ∀ name ∈ monthNames, name.toList ≠ [] ∧ abbreviated name ≠ [] ∧
      (name.toList.all fun d => decide (isBlank d = false ∧ isDigit d = false)) = true := by decide
  obtain ⟨hfull, hshort, hall⟩ := hname _ (monthName_mem moment.date.month_le)
  have hletters := forall_mem_of_all hall
  simp only [List.mem_cons, List.not_mem_nil, or_false] at h
  rcases h with rfl | rfl
  · exact ⟨hfull, hletters⟩
  · exact ⟨hshort, fun d hd => hletters d (List.mem_of_mem_take hd)⟩

theorem Moment.isNumeral_piece (moment : Moment) (h : c ∈ dateLetters) (hname : c ∉ ['F', 'M']) :
    IsNumeral (moment.piece c) := by
  simp only [dateLetters, List.mem_cons, List.not_mem_nil, or_false] at h
  rcases h with rfl | rfl | rfl | rfl | rfl | rfl | rfl | rfl | rfl
  · exact isNumeral_padded 2 _
  · exact isNumeral_ofNat _
  · exact isNumeral_padded 2 _
  · exact absurd (by decide) hname
  · exact absurd (by decide) hname
  · exact isNumeral_padded 4 _
  · exact isNumeral_padded 2 _
  · exact isNumeral_padded 2 _
  · exact isNumeral_padded 2 _

/-- A letter writes digits, or a name without any. -/
theorem Moment.piece_cases (moment : Moment) (h : c ∈ dateLetters) :
    IsNumeral (moment.piece c) ∨
      moment.piece c ≠ [] ∧ ∀ d ∈ moment.piece c, isBlank d = false ∧ isDigit d = false := by
  by_cases hname : c ∈ ['F', 'M']
  · exact Or.inr (moment.piece_name hname)
  · exact Or.inl (moment.isNumeral_piece h hname)

theorem Moment.piece_ne_nil (moment : Moment) (h : c ∈ dateLetters) : moment.piece c ≠ [] := by
  rcases moment.piece_cases h with hdigits | ⟨hne, -⟩
  · exact hdigits.1
  · exact hne

theorem Moment.isBlank_of_mem_piece (moment : Moment) (h : c ∈ dateLetters) :
    ∀ d ∈ moment.piece c, isBlank d = false := by
  intro d hd
  rcases moment.piece_cases h with hdigits | ⟨-, hletters⟩
  · rw [← Bool.not_eq_true]
    intro hblank
    exact absurd (hdigits.2 d hd) (Bool.eq_false_iff.1 (isDigit_of_isBlank hblank))
  · exact (hletters d hd).1

/-- Behind a letter of a readable pattern stands a gap. -/
theorem Moment.mem_dateGaps_of_mem_head (moment : Moment) (h : isReadable pattern = true)
    (hgap : ∀ c ∈ pattern.head?, c ∈ dateGaps) :
    ∀ d ∈ (moment.render pattern).head?, d ∈ dateGaps := by
  cases pattern with
  | nil => simp [Moment.render]
  | cons c pattern =>
    have hc := hgap c rfl
    rw [moment.render_cons_of_isReadable h, moment.piece_of_mem_dateGaps hc]
    rintro d ⟨rfl⟩
    exact hc

theorem Moment.isBlank_of_mem_head_piece (moment : Moment) (h : c ∈ dateLetters)
    (rest : Text) : ∀ d ∈ (moment.piece c ++ rest).head?, isBlank d = false := by
  obtain ⟨d, front, hpiece⟩ := List.exists_cons_of_ne_nil (moment.piece_ne_nil h)
  rw [hpiece]
  rintro _ ⟨rfl⟩
  exact moment.isBlank_of_mem_piece h d (hpiece ▸ List.mem_cons_self)

/-- A readable pattern that starts with a letter writes no blank there. -/
theorem Moment.isBlank_of_mem_head (moment : Moment) (h : isReadable pattern = true)
    (hletter : ∃ c ∈ pattern.head?, c ∈ dateLetters) :
    ∀ d ∈ (moment.render pattern).head?, isBlank d = false := by
  obtain ⟨c, hc, hletter⟩ := hletter
  obtain ⟨pattern, rfl⟩ := List.head?_eq_some_iff.1 hc
  rw [moment.render_cons_of_isReadable h]
  exact moment.isBlank_of_mem_head_piece hletter _

end FormLetter
