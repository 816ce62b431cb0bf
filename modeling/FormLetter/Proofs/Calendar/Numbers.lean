import FormLetter.Proofs.Calendar.Piece
import FormLetter.Proofs.Text.Run

/-!
# The numbers of a text

The layouts of dates in numbers have something else than a digit between any two numbers. What such
a layout reads can be said without its readings: the numbers of the text, one after the other, are
the values of its fields.

* `numerals`: the maximal runs of digits of a text.
* `DateFields.fill`: fields set to numbers in the order in which the items name them.
* `Spaced`: a layout in which something stands between numbers.
* `fill_of_readItems?`: a spaced layout sets its fields to the numbers of the text.
-/

namespace FormLetter

open Text

/-! ## Runs of digits -/

/-- The maximal runs of digits of a text. -/
def numerals (text : Text) : List Text :=
  (text.splitOnP fun c => !isDigit c).filter fun digits => !digits.isEmpty

variable {text rest digits : Text} {c : Char}

theorem numerals_cons (h : isDigit c = false) (rest : Text) :
    numerals (c :: rest) = numerals rest := runs_cons h rest

theorem numerals_append_of_forall {front : Text} (h : ∀ c ∈ front, isDigit c = false)
    (rest : Text) : numerals (front ++ rest) = numerals rest := runs_append_of_forall h rest

theorem numerals_append (hd : IsNumeral digits) (hr : ∀ c ∈ rest.head?, isDigit c = false) :
    numerals (digits ++ rest) = digits :: numerals rest := runs_append hd hr

/-! ## Gaps between numbers -/

/-- Whether an item stands between numbers. -/
def LayoutItem.isGap : LayoutItem → Bool
  | .blanks => true
  | .char c => ['/', '-', '.', ':'].contains c
  | _ => false

theorem field?_of_isGap {item : LayoutItem} (h : item.isGap = true) : item.field? = none := by
  cases item with
  | blanks => rfl
  | char c => rfl
  | _ => cases h

/-- What stands between numbers is no digit, and what is read over has none either. -/
theorem numerals_of_mem_readings {item : LayoutItem} (hg : item.isGap = true)
    {reading : ItemReading} (h : reading ∈ item.readings text) :
    reading.field = none ∧ (∀ c ∈ text.head?, isDigit c = false) ∧
      numerals text = numerals reading.rest := by
  cases item with
  | blanks =>
    obtain ⟨left, hleft, rfl⟩ := List.mem_map.1 h
    obtain ⟨blanks, rfl, hne, hblanks⟩ := eq_append_of_mem_blankRests hleft
    refine ⟨rfl, ?_, ?_⟩
    · obtain ⟨c, blanks, rfl⟩ := List.exists_cons_of_ne_nil hne
      intro d hd
      rw [← Option.some.inj hd]
      exact isDigit_of_isBlank (hblanks c List.mem_cons_self)
    · exact numerals_append_of_forall (fun c hc => isDigit_of_isBlank (hblanks c hc)) left
  | char c =>
    obtain ⟨left, hleft, rfl⟩ := Option.map_eq_some_iff.1 (Option.mem_toList.1 h)
    obtain ⟨piece, rfl, hpiece⟩ := afterFolded?_eq_some hleft
    have hmarks : ∀ c ∈ ['/', '-', '.', ':'], c.isAlpha = false ∧ isDigit c = false :=
      forall_mem_of_all (by decide)
    have hmark := hmarks c (List.contains_iff_mem.1 hg)
    obtain ⟨d, rfl, hd⟩ := List.map_eq_singleton_iff.1 hpiece
    rw [eq_of_toLower_eq hmark.1 hd]
    exact ⟨rfl, fun x hx => Option.some.inj hx ▸ hmark.2, numerals_cons hmark.2 left⟩
  | _ => cases hg

/-- The fields set to numbers, one for each item; the numbers are to be as long as the items say. -/
def DateFields.fill : List LayoutItem → List Text → DateFields → Option DateFields
  | [], [], fields => some fields
  | item :: items, digits :: numbers, fields =>
    if item.width?.all (· = digits.length) then
      fill items numbers (fields.set (item.field?.map (·, item.valueOf digits)))
    else none
  | _, _, _ => none

/-- Whether a layout is one of numbers with something between any two of them. -/
def Spaced : List LayoutItem → Bool
  | [] => true
  | item :: items =>
    (item.isGap || item.field?.isSome && items.head?.all LayoutItem.isGap) && Spaced items

/-- The items of a layout that stand for numbers. -/
def numberItems (items : List LayoutItem) : List LayoutItem :=
  items.filter fun item => item.field?.isSome

variable {items : List LayoutItem} {fields result : DateFields}

/-- A layout that starts with a gap reads no text that starts with a digit. -/
theorem isDigit_head_of_readItems? (hg : items.head?.all LayoutItem.isGap = true)
    (h : readItems? items fields text = some (result, [])) :
    ∀ c ∈ text.head?, isDigit c = false := by
  cases items with
  | nil =>
    obtain ⟨-, rfl⟩ := Prod.mk.inj (Option.some.inj h)
    simp
  | cons item items =>
    obtain ⟨reading, hmem, -⟩ := readItems?_cons_eq_some h
    exact (numerals_of_mem_readings (Option.all_some.symm.trans hg) hmem).2.1

/-- A spaced layout sets its fields to the numbers of the text, in order. -/
theorem fill_of_readItems? (hs : Spaced items = true)
    (h : readItems? items fields text = some (result, [])) :
    DateFields.fill (numberItems items) (numerals text) fields = some result := by
  induction items generalizing text fields with
  | nil =>
    obtain ⟨rfl, rfl⟩ := Prod.mk.inj (Option.some.inj h)
    rfl
  | cons item items ih =>
    obtain ⟨hitem, hitems⟩ := Bool.and_eq_true_iff.1 hs
    obtain ⟨reading, hmem, hrest⟩ := readItems?_cons_eq_some h
    rcases Bool.or_eq_true_iff.1 hitem with hgap | hnumber
    · obtain ⟨hfield, -, hnumerals⟩ := numerals_of_mem_readings hgap hmem
      have hskip : numberItems (item :: items) = numberItems items := by
        apply List.filter_cons_of_neg
        rw [field?_of_isGap hgap]
        simp
      rw [hskip, hnumerals]
      rw [hfield] at hrest
      exact ih hitems hrest
    · obtain ⟨hfield, hnext⟩ := Bool.and_eq_true_iff.1 hnumber
      obtain ⟨digits, htakes⟩ := exists_takes_of_mem_readings hfield hmem
      have hhead := isDigit_head_of_readItems? hnext hrest
      have hnumerals : numerals text = digits :: numerals reading.rest := by
        rcases htakes.text_eq with htext | ⟨-, htext⟩
        · rw [htext, numerals_append htakes.isNumeral hhead]
        · rw [htext, numerals_cons (by decide), numerals_append htakes.isNumeral hhead]
      have hkeep : numberItems (item :: items) = item :: numberItems items :=
        List.filter_cons_of_pos hfield
      have hwidth : item.width?.all (· = digits.length) = true := by
        rw [Option.all_eq_true]
        exact fun width hw => decide_eq_true (htakes.length_eq width hw).symm
      rw [hnumerals, hkeep, DateFields.fill, if_pos hwidth, ← htakes.field_eq]
      exact ih hitems hrest

end FormLetter
