import FormLetter.Proofs.Calendar.Letter
import FormLetter.Proofs.Calendar.Outline

/-!
# Layouts that do not read a written date

Most layouts do not read what a pattern writes: they ask for other characters than it writes, or for
four digits or a day where it starts with something else. This depends on the moment by its month
alone, and so it can be computed for all moments.

* `patternOutline`, `outline_render`: the outline of what a pattern writes depends on the month.
* `startsShort`, `exists_mem_take_of_startsShort`: patterns that do not start with four digits.
* `readings_year_eq_nil`, `readings_day_eq_nil`: what no item for a year or a day reads.
* `misses`, `readLayout?_eq_none_of_misses`: a layout that does not read what a pattern writes.
-/

namespace FormLetter

open Text

variable {moment : Moment} {text pattern : Text} {items : List LayoutItem} {c : Char}

/-! ## Outlines of what is written -/

/-- The outline of what a character of a pattern writes in a month. -/
def letterOutline (month : Nat) (c : Char) : Text :=
  if c = 'F' then outline (monthName month).toList
  else if c = 'M' then outline (abbreviated (monthName month))
  else if c ∈ dateLetters then []
  else outline [c]

/-- The outline of what a pattern writes in a month. -/
def patternOutline (month : Nat) (pattern : Text) : Text := pattern.flatMap (letterOutline month)

theorem outline_piece (h : c ∈ dateLetters ∨ c ∈ dateGaps) :
    outline (moment.piece c) = letterOutline moment.date.month c := by
  by_cases hname : c ∈ ['F', 'M']
  · simp only [List.mem_cons, List.not_mem_nil, or_false] at hname
    rcases hname with rfl | rfl <;> rfl
  · obtain ⟨hfull, hshort⟩ : c ≠ 'F' ∧ c ≠ 'M' := by simpa using hname
    rw [letterOutline, if_neg hfull, if_neg hshort]
    rcases h with hletter | hgap
    · have hdigits := (moment.isNumeral_piece hletter hname).2
      rw [if_pos hletter, outline_eq_nil fun d hd => Or.inl (hdigits d hd)]
    · have hletter : ∀ c ∈ dateGaps, c ∉ dateLetters := forall_mem_of_all (by decide)
      rw [if_neg (hletter c hgap), moment.piece_of_mem_dateGaps hgap]

/-- The outline of what a readable pattern writes depends on the month alone. -/
theorem outline_render (moment : Moment) (h : isReadable pattern = true) :
    outline (moment.render pattern) = patternOutline moment.date.month pattern := by
  induction pattern with
  | nil => rfl
  | cons c pattern ih =>
    obtain ⟨hc, hpattern⟩ := isReadable_cons h
    rw [moment.render_cons_of_isReadable h, outline_append, ih hpattern,
      outline_piece (hc.imp And.left And.left)]
    rfl

/-! ## Starts of what is written -/

theorem mem_take_of_length_lt {front : Text} {n : Nat} (h : front.length < n) (c : Char)
    (rest : Text) : c ∈ (front ++ c :: rest).take n := by
  obtain ⟨k, hk⟩ : ∃ k, n - front.length = k + 1 := ⟨n - front.length - 1, by omega⟩
  rw [List.take_append, hk, List.take_succ_cons]
  exact List.mem_append_right _ List.mem_cons_self

/-- Whether what a pattern writes starts with fewer than four digits. -/
def startsShort : Text → Bool
  | c :: _ :: _ => ['d', 'j', 'm', 'F', 'M'].contains c
  | _ => false

theorem Moment.exists_head_of_name (moment : Moment) (h : c ∈ ['F', 'M']) :
    ∃ d rest, moment.piece c = d :: rest ∧ isBlank d = false ∧ isDigit d = false := by
  obtain ⟨hne, hletters⟩ := moment.piece_name h
  obtain ⟨d, rest, hpiece⟩ := List.exists_cons_of_ne_nil hne
  exact ⟨d, rest, hpiece, hletters d (hpiece ▸ List.mem_cons_self)⟩

/-- A day or a month has no more than two digits. -/
theorem Moment.length_piece_le (moment : Moment) (h : c ∈ ['d', 'j', 'm']) :
    (moment.piece c).length ≤ 2 := by
  obtain ⟨-, hmonth, hday⟩ := moment.date.lt_width
  simp only [List.mem_cons, List.not_mem_nil, or_false] at h
  rcases h with rfl | rfl | rfl
  · exact Nat.le_of_eq (congrArg List.length (padded_two hday))
  · exact length_ofNat_le hday
  · exact Nat.le_of_eq (congrArg List.length (padded_two hmonth))

theorem exists_mem_take_of_startsShort (moment : Moment) (h : isReadable pattern = true)
    (hshort : startsShort pattern = true) :
    ∃ d ∈ (moment.render pattern).take 4, isDigit d = false := by
  have hletters : ∀ c ∈ ['d', 'j', 'm', 'F', 'M'], c ∉ dateGaps := forall_mem_of_all (by decide)
  have hnumber : ∀ c ∈ ['d', 'j', 'm', 'F', 'M'], c ∉ ['F', 'M'] → c ∈ ['d', 'j', 'm'] :=
    forall_mem_of_all (by decide)
  match pattern with
  | [] => cases hshort
  | [_] => cases hshort
  | c :: gap :: pattern =>
    have hc : c ∈ ['d', 'j', 'm', 'F', 'M'] := List.contains_iff_mem.1 hshort
    obtain ⟨⟨-, hnext⟩ | ⟨hgap, -⟩, hrest⟩ := isReadable_cons h
    · have hgap := hnext gap rfl
      rw [moment.render_cons_of_isReadable h, moment.render_cons_of_isReadable hrest,
        moment.piece_of_mem_dateGaps hgap, List.singleton_append]
      by_cases hname : c ∈ ['F', 'M']
      · obtain ⟨d, rest, hpiece, -, hdigit⟩ := moment.exists_head_of_name hname
        rw [hpiece]
        exact ⟨d, List.mem_cons_self, hdigit⟩
      · have hlength := moment.length_piece_le (hnumber c hc hname)
        exact ⟨gap, mem_take_of_length_lt (by omega) gap _,
          isDigit_of_mem_dateGaps gap hgap⟩
    · exact absurd hgap (hletters c hc)

/-! ## Layouts that do not read a text -/

theorem readLayout?_eq_none_of_readings {item : LayoutItem} (h : item.readings text = []) :
    readLayout? (item :: items) text = none := by
  simp [readLayout?, readItems?, h]

theorem readings_year_eq_nil (hc : c ∈ text.take 4) (hdigit : isDigit c = false) :
    LayoutItem.year.readings text = [] := by
  refine List.eq_nil_iff_forall_not_mem.2 fun reading h => ?_
  obtain ⟨digits, htakes⟩ := exists_takes_of_mem_readings rfl h
  have hlength : digits.length = 4 := htakes.length_eq 4 rfl
  obtain htext | ⟨hday, -⟩ := htakes.text_eq
  · rw [htext, List.take_left' hlength] at hc
    rw [htakes.isNumeral.2 c hc] at hdigit
    cases hdigit
  · cases hday

theorem readings_day_eq_nil (hdigit : isDigit c = false) (hblank : c ≠ ' ') (rest : Text) :
    LayoutItem.day.readings (c :: rest) = [] := by
  refine List.eq_nil_iff_forall_not_mem.2 fun reading h => ?_
  obtain ⟨digits, htakes⟩ := exists_takes_of_mem_readings rfl h
  obtain ⟨d, digits, rfl⟩ := List.exists_cons_of_ne_nil htakes.isNumeral.1
  obtain htext | ⟨-, htext⟩ := htakes.text_eq
  · rw [(List.cons.inj htext).1, htakes.isNumeral.2 d List.mem_cons_self] at hdigit
    cases hdigit
  · exact hblank (List.cons.inj htext).1

/-- Whether a layout does not read what a pattern writes in a month: it asks for other characters,
for a year in front, or for a day where there is a name. -/
def misses (month : Nat) (pattern : Text) (items : List LayoutItem) : Bool :=
  !(outlinesOf items).contains (patternOutline month pattern) ||
    (items.head? == some .year && startsShort pattern ||
      items.head? == some .day && pattern.head?.any ['F', 'M'].contains)

theorem readLayout?_eq_none_of_misses (moment : Moment) (h : isReadable pattern = true)
    (hmisses : misses moment.date.month pattern items = true) :
    readLayout? items (moment.render pattern) = none := by
  rcases Bool.or_eq_true_iff.1 hmisses with houtline | hfront
  · refine readLayout?_eq_none ?_
    rw [outline_render moment h]
    simpa using houtline
  rcases Bool.or_eq_true_iff.1 hfront with hyear | hday
  · obtain ⟨hhead, hshort⟩ := Bool.and_eq_true_iff.1 hyear
    obtain ⟨items, rfl⟩ := List.head?_eq_some_iff.1 (eq_of_beq hhead)
    obtain ⟨d, hd, hdigit⟩ := exists_mem_take_of_startsShort moment h hshort
    exact readLayout?_eq_none_of_readings (readings_year_eq_nil hd hdigit)
  · obtain ⟨hhead, hname⟩ := Bool.and_eq_true_iff.1 hday
    obtain ⟨items, rfl⟩ := List.head?_eq_some_iff.1 (eq_of_beq hhead)
    obtain ⟨c, hc, hname⟩ := (Option.any_eq_true _ _).1 hname
    obtain ⟨pattern, rfl⟩ := List.head?_eq_some_iff.1 hc
    obtain ⟨d, rest, hpiece, hblank, hdigit⟩ :=
      moment.exists_head_of_name (List.contains_iff_mem.1 hname)
    rw [moment.render_cons_of_isReadable h, hpiece]
    refine readLayout?_eq_none_of_readings (readings_day_eq_nil hdigit ?_ _)
    rintro rfl
    exact absurd hblank (by decide)

end FormLetter
