import FormLetter.Calendar.Reading
import FormLetter.Proofs.Calendar.Letter
import Mathlib.Data.List.Chain

/-!
# Dropping ordinal endings

Ordinal endings are dropped where they stand behind a day, and nothing else changes: in what a
readable pattern writes, a digit is only followed by another or by a gap.

* `endingLetters`, `mem_endingLetters`: the characters that an ordinal ending starts with.
* `dropOrdinalsFrom_eq_self`: a text without endings stays as it is.
* `dropOrdinals_render`: so does what a readable pattern writes.
* `dropOrdinals_render_ending`: the ending of a day is dropped.
-/

namespace FormLetter

open Text

variable {text : Text} {pattern : Text} {a b c : Char}

/-! ## Texts without endings -/

/-- The characters that an ordinal ending may start with. -/
def endingLetters : List Char := ['s', 'n', 'r', 't', 'S', 'N', 'R', 'T', 'ſ']

theorem mem_endingLetters (h : isOrdinalEnding a b = true) : a ∈ endingLetters := by
  have hcapital : ∀ c : Char, c.isUpper = true →
      c.toLower ∈ ['s', 'n', 'r', 't'] → c ∈ endingLetters := forall_isUpper (by decide)
  have hfold : (if a = 'ſ' then 's' else a.toLower) ∈ ['s', 'n', 'r', 't'] := by
    simp only [isOrdinalEnding, List.contains_iff_mem, List.mem_cons, List.cons.injEq,
      List.not_mem_nil, or_false, and_true] at h
    grind
  by_cases hlong : a = 'ſ'
  · rw [hlong]
    decide
  · rw [if_neg hlong] at hfold
    cases hupper : a.isUpper with
    | true => exact hcapital a hupper hfold
    | false =>
      rw [toLower_eq_self hupper] at hfold
      exact List.mem_append_left ['S', 'N', 'R', 'T', 'ſ'] hfold

/-- Whether a digit is only followed by a digit or a gap. -/
def IsPlain (text : Text) : Prop :=
  text.IsChain fun a b => isDigit a = true → isDigit b = true ∨ b ∈ dateGaps

theorem not_isOrdinalEnding (h : isDigit a = true ∨ a ∈ dateGaps) (b : Char) :
    isOrdinalEnding a b = false := by
  have hletters : ∀ a ∈ endingLetters, isDigit a = false ∧ a ∉ dateGaps :=
    forall_mem_of_all (by decide)
  rw [Bool.eq_false_iff]
  intro hending
  obtain ⟨hdigit, hgap⟩ := hletters a (mem_endingLetters hending)
  rcases h with h | h
  · rw [hdigit] at h
    cases h
  · exact hgap h

theorem takeOrdinal?_eq_none (h : IsPlain text) : takeOrdinal? text = none := by
  unfold takeOrdinal?
  split
  · rename_i a b c rest
    obtain ⟨hab, htail⟩ := List.isChain_cons_cons.1 h
    obtain ⟨hbc, -⟩ := List.isChain_cons_cons.1 htail
    have hfirst : (isDigit a && isOrdinalEnding b c) = false := by
      cases ha : isDigit a with
      | false => rfl
      | true => rw [not_isOrdinalEnding (hab ha), Bool.and_false]
    have hsecond (d : Char) : (isDigit b && isOrdinalEnding c d) = false := by
      cases hb : isDigit b with
      | false => rfl
      | true => rw [not_isOrdinalEnding (hbc hb), Bool.and_false]
    cases rest <;> simp [hfirst, hsecond, Bool.and_assoc]
  · rfl

/-- A text without endings stays as it is. -/
theorem dropOrdinalsFrom_eq_self (h : IsPlain text) (inWord : Bool) :
    dropOrdinalsFrom inWord text = text := by
  induction text generalizing inWord with
  | nil => rw [dropOrdinalsFrom]
  | cons c rest ih =>
    have hnone : (if inWord then none else takeOrdinal? (c :: rest)) = none := by
      rw [takeOrdinal?_eq_none h, ite_self]
    rw [dropOrdinalsFrom]
    split
    · rename_i hsome
      rw [hnone] at hsome
      cases hsome
    · rw [ih (List.isChain_of_isChain_cons h)]

/-! ## What a pattern writes -/

theorem isPlain_piece (moment : Moment) (h : c ∈ dateLetters) : IsPlain (moment.piece c) := by
  refine List.Pairwise.isChain (List.pairwise_of_forall_mem_list ?_)
  intro a ha b hb hdigit
  rcases moment.piece_cases h with hdigits | ⟨-, hletters⟩
  · exact Or.inl (hdigits.2 b hb)
  · rw [(hletters a ha).2] at hdigit
    cases hdigit

/-- In what a readable pattern writes, a digit is only followed by a digit or a gap. -/
theorem isPlain_render (moment : Moment) (h : isReadable pattern = true) :
    IsPlain (moment.render pattern) := by
  induction pattern with
  | nil => exact List.IsChain.nil
  | cons c pattern ih =>
    obtain ⟨hc, hpattern⟩ := isReadable_cons h
    rw [moment.render_cons_of_isReadable h]
    rcases hc with ⟨hletter, hnext⟩ | ⟨hgap, -⟩
    · refine List.isChain_append.2 ⟨isPlain_piece moment hletter, ih hpattern, ?_⟩
      intro a _ b hb _
      exact Or.inr (moment.mem_dateGaps_of_mem_head hpattern hnext b hb)
    · rw [moment.piece_of_mem_dateGaps hgap]
      refine List.isChain_cons.2 ⟨?_, ih hpattern⟩
      intro b _ hdigit
      rw [isDigit_of_mem_dateGaps c hgap] at hdigit
      cases hdigit

/-- What a readable pattern writes has no ordinal ending. -/
theorem dropOrdinals_render (moment : Moment) (h : isReadable pattern = true) :
    dropOrdinals (moment.render pattern) = moment.render pattern :=
  dropOrdinalsFrom_eq_self (isPlain_render moment h) false

/-! ## The ending of a day -/

theorem ordinalEnding_mem (day : Nat) : ordinalEnding day ∈ ["th", "st", "nd", "rd"] := by
  unfold ordinalEnding
  split_ifs <;> decide

/-- One or two digits are taken with an ending behind them, if a blank follows. -/
theorem takeOrdinal?_ending {n : Nat} (hn : n < 100) (hending : isOrdinalEnding a b = true)
    (rest : Text) :
    takeOrdinal? (ofNat n ++ a :: b :: ' ' :: rest) = some (ofNat n, ' ' :: rest) := by
  have hblank : isWordLike ' ' = false := by decide
  by_cases hten : n < 10
  · rw [ofNat_of_lt_ten hten]
    simp [takeOrdinal?, isDigit_digitChar hten, hending, hblank]
  · have hhigh : isDigit (Nat.digitChar (n / 10)) = true := isDigit_digitChar (by omega)
    have hlow : isDigit (Nat.digitChar (n % 10)) = true := isDigit_digitChar (by omega)
    rw [ofNat_of_lt_hundred (by omega) hn]
    simp [takeOrdinal?, not_isOrdinalEnding (Or.inl hlow), hhigh, hlow, hending, hblank]

theorem dropOrdinalsFrom_of_takeOrdinal? {digits rest : Text}
    (h : takeOrdinal? text = some (digits, rest)) :
    dropOrdinalsFrom false text = digits ++ dropOrdinalsFrom true rest := by
  cases text with
  | nil => cases h
  | cons c text =>
    rw [dropOrdinalsFrom]
    split
    · rename_i hsome
      obtain ⟨rfl, rfl⟩ := Prod.mk.inj (Option.some.inj (hsome.symm.trans h))
      rfl
    · rename_i hnone
      cases hnone.symm.trans h

/-- The ending of a day stands between the day and what follows. -/
theorem exists_render_ending (moment : Moment) :
    ∃ a b, isOrdinalEnding a b = true ∧ ∀ pattern,
      moment.render ('j' :: 'S' :: pattern) =
        ofNat moment.date.day ++ a :: b :: moment.render pattern := by
  have hsplit {a b : Char} (h : (ordinalEnding moment.date.day).toList = [a, b]) (pattern : Text) :
      moment.render ('j' :: 'S' :: pattern) =
        ofNat moment.date.day ++ a :: b :: moment.render pattern := by
    simp [Moment.render, renderLetter?, h]
  have hmem := ordinalEnding_mem moment.date.day
  simp only [List.mem_cons, List.not_mem_nil, or_false] at hmem
  rcases hmem with he | he | he | he
  · exact ⟨'t', 'h', by decide, hsplit (by rw [he]; rfl)⟩
  · exact ⟨'s', 't', by decide, hsplit (by rw [he]; rfl)⟩
  · exact ⟨'n', 'd', by decide, hsplit (by rw [he]; rfl)⟩
  · exact ⟨'r', 'd', by decide, hsplit (by rw [he]; rfl)⟩

/-- The ending of a day is dropped. -/
theorem dropOrdinals_render_ending (moment : Moment) (h : isReadable (' ' :: pattern) = true) :
    dropOrdinals (moment.render ('j' :: 'S' :: ' ' :: pattern)) =
      moment.render ('j' :: ' ' :: pattern) := by
  have hblank : moment.render (' ' :: pattern) = ' ' :: moment.render pattern :=
    moment.render_cons_of_isReadable h
  have hshort : moment.render ('j' :: ' ' :: pattern) =
      ofNat moment.date.day ++ ' ' :: moment.render pattern := by
    simp [Moment.render, renderLetter?]
  have hplain := isPlain_render moment h
  obtain ⟨a, b, hending, htext⟩ := exists_render_ending moment
  rw [hblank] at hplain
  rw [htext, hblank, hshort, dropOrdinals, dropOrdinalsFrom_of_takeOrdinal?
    (takeOrdinal?_ending moment.date.lt_width.2.2 hending _), dropOrdinalsFrom_eq_self hplain]

end FormLetter
