import FormLetter.Calendar.Reading
import FormLetter.Proofs.Calendar.Piece
import Mathlib.Data.List.TakeDrop

/-!
# Outlines of dates

The outline of a text is what is left of it without digits and blanks, in lower case. A layout reads
only texts of its own outlines, of which it has one for each choice of names; so a text that stands
for a date in one layout can be told from most other layouts by its outline alone.

* `outline`: the characters of a text other than digits and blanks, in lower case.
* `outlinesOf`: the outlines of the texts that a layout reads.
* `outline_of_readItems?`: what a layout reads has one of its outlines.
* `readLayout?_eq_none`: a text with another outline is not read.
* `secondsOf?_eq_none`: neither is it a number, if it has more than a sign and a point.
-/

namespace FormLetter

open Text

/-! ## Outlines of texts -/

/-- The characters of a text other than digits and blanks, in lower case. -/
def outline (text : Text) : Text :=
  (text.map Char.toLower).filter fun c => !isDigit c && !isBlank c

variable {text rest : Text} {c : Char}

theorem outline_append (front back : Text) :
    outline (front ++ back) = outline front ++ outline back := by
  rw [outline, List.map_append, List.filter_append]
  rfl

theorem outline_cons (c : Char) (text : Text) : outline (c :: text) = outline [c] ++ outline text :=
  outline_append [c] text

theorem outline_congr {front back : Text} (h : front.map Char.toLower = back.map Char.toLower) :
    outline front = outline back := by
  rw [outline, h, outline]

/-- Digits and blanks are in no outline. -/
theorem outline_eq_nil (h : ∀ c ∈ text, isDigit c = true ∨ isBlank c = true) :
    outline text = [] := by
  have hcapital : ∀ c : Char, c.isUpper = true → isDigit c = false ∧ isBlank c = false :=
    forall_isUpper (by decide)
  refine List.filter_eq_nil_iff.2 fun d hd => ?_
  obtain ⟨c, hc, rfl⟩ := List.mem_map.1 hd
  cases hupper : c.isUpper with
  | true => exact absurd (h c hc) (by simp [hcapital c hupper])
  | false =>
    rw [toLower_eq_self hupper]
    rcases h c hc with hdigit | hblank
    · simp [hdigit]
    · simp [hblank]

/-! ## Outlines of layouts -/

/-- The outlines of what an item may be read from. -/
def LayoutItem.outlines : LayoutItem → List Text
  | .monthName => (monthNames.map String.toList).map outline
  | .monthAbbreviation => (monthNames.map abbreviated).map outline
  | .weekdayName => (weekdayNames.map String.toList).map outline
  | .char c => [outline [c]]
  | _ => [[]]

/-- The outlines of the texts that a layout reads. -/
def outlinesOf : List LayoutItem → List Text
  | [] => [[]]
  | item :: items => item.outlines.flatMap fun front => (outlinesOf items).map (front ++ ·)

theorem outline_of_takeName? {names : List Text} {n : Nat}
    (h : takeName? names text = some (n, rest)) :
    ∃ front ∈ names.map outline, outline text = front ++ outline rest := by
  obtain ⟨⟨name, place⟩, hmem, hname⟩ := List.exists_of_findSome?_eq_some h
  obtain ⟨left, hleft, heq⟩ := Option.map_eq_some_iff.1 hname
  obtain ⟨-, rfl⟩ := Prod.mk.inj heq
  obtain ⟨piece, rfl, hpiece⟩ := afterFolded?_eq_some hleft
  obtain ⟨-, -, hat⟩ := List.mem_zipIdx hmem
  refine ⟨outline name, List.mem_map_of_mem (hat ▸ List.getElem_mem _), ?_⟩
  rw [outline_append, outline_congr hpiece]

/-- Whatever an item takes has one of its outlines. -/
theorem outline_of_mem_readings {item : LayoutItem} {reading : ItemReading}
    (h : reading ∈ item.readings text) :
    ∃ front ∈ item.outlines, outline text = front ++ outline reading.rest := by
  cases item with
  | monthName =>
    obtain ⟨n, hmem, -⟩ := exists_of_mem_set h
    exact outline_of_takeName? (List.mem_singleton.1 hmem).symm
  | monthAbbreviation =>
    obtain ⟨n, hmem, -⟩ := exists_of_mem_set h
    exact outline_of_takeName? (List.mem_singleton.1 hmem).symm
  | weekdayName =>
    obtain ⟨⟨n, left⟩, hleft, rfl⟩ := Option.map_eq_some_iff.1 (Option.mem_toList.1 h)
    exact outline_of_takeName? hleft
  | blanks =>
    obtain ⟨left, hleft, rfl⟩ := List.mem_map.1 h
    obtain ⟨blanks, rfl, -, hblanks⟩ := eq_append_of_mem_blankRests hleft
    refine ⟨[], List.mem_singleton_self _, ?_⟩
    rw [outline_append, outline_eq_nil fun c hc => Or.inr (hblanks c hc)]
  | char c =>
    obtain ⟨left, hleft, rfl⟩ := Option.map_eq_some_iff.1 (Option.mem_toList.1 h)
    obtain ⟨piece, rfl, hpiece⟩ := afterFolded?_eq_some hleft
    refine ⟨outline [c], List.mem_singleton_self _, ?_⟩
    rw [outline_append, outline_congr hpiece]
  | _ =>
    -- An item for a number: digits, perhaps with a blank in front, have no outline.
    obtain ⟨digits, htakes⟩ := exists_takes_of_mem_readings rfl h
    have hdigits : outline digits = [] :=
      outline_eq_nil fun c hc => Or.inl (htakes.isNumeral.2 c hc)
    refine ⟨[], List.mem_singleton_self _, ?_⟩
    rcases htakes.text_eq with htext | ⟨-, htext⟩
    · rw [htext, outline_append, hdigits]
    · rw [htext, outline_cons, outline_append, hdigits]
      rfl

theorem outline_of_readItems? {items : List LayoutItem} {fields result : DateFields}
    (h : readItems? items fields text = some (result, rest)) :
    ∃ front ∈ outlinesOf items, outline text = front ++ outline rest := by
  induction items generalizing text fields with
  | nil =>
    obtain ⟨-, rfl⟩ := Prod.mk.inj (Option.some.inj h)
    exact ⟨[], List.mem_singleton_self _, rfl⟩
  | cons item items ih =>
    obtain ⟨reading, hmem, hrest⟩ := readItems?_cons_eq_some h
    obtain ⟨front, hfront, hitem⟩ := outline_of_mem_readings hmem
    obtain ⟨back, hback, hitems⟩ := ih hrest
    refine ⟨front ++ back, ?_, by rw [hitem, hitems, List.append_assoc]⟩
    exact List.mem_flatMap.2 ⟨front, hfront, List.mem_map_of_mem hback⟩

theorem readLayout?_eq_none {items : List LayoutItem} (h : outline text ∉ outlinesOf items) :
    readLayout? items text = none := by
  refine Option.eq_none_iff_forall_not_mem.2 fun moment hm => h ?_
  obtain ⟨result, hread, -⟩ := readLayout?_eq_some hm
  obtain ⟨front, hfront, houtline⟩ := outline_of_readItems? hread
  rwa [houtline, outline_eq_nil (by simp), List.append_nil]

/-! ## Numbers of seconds -/

/-- The outline of a number is at most a sign and a point. -/
theorem outline_of_secondsOf? {seconds : Binary64} (h : secondsOf? text = some seconds) :
    outline text ∈ [[], ['-'], ['.'], ['-', '.']] := by
  have hdigits {digits : Text} (hd : ∀ c ∈ digits, isDigit c = true) : outline digits = [] :=
    outline_eq_nil fun c hc => Or.inl (hd c hc)
  unfold secondsOf? at h
  split at h
  rename_i negative body hsign
  have hbody : outline body = [] ∨ outline body = ['.'] := by
    rw [List.span_eq_takeWhile_dropWhile] at h
    have htake : ∀ c ∈ body.takeWhile isDigit, isDigit c = true := fun c hc =>
      List.all_eq_true.1 List.all_takeWhile c hc
    rw [← List.takeWhile_append_dropWhile (p := isDigit) (l := body), outline_append,
      hdigits htake, List.nil_append]
    split at h
    · cases h
    · rename_i hcut
      rw [(Prod.mk.inj hcut).2]
      exact Or.inl rfl
    · rename_i rest hcut
      obtain ⟨hrest, -⟩ := Option.ite_none_right_eq_some.1 h
      obtain ⟨-, hrest⟩ := Bool.and_eq_true_iff.1 hrest
      rw [(Prod.mk.inj hcut).2, outline_cons, hdigits (List.all_eq_true.1 hrest)]
      exact Or.inr rfl
    · cases h
  have htext : text = body ∨ text = '-' :: body := by
    split at hsign
    · exact Or.inr (congrArg _ (Prod.mk.inj hsign).2)
    · exact Or.inl (Prod.mk.inj hsign).2
  rcases htext with rfl | rfl
  · rcases hbody with hbody | hbody <;> simp [hbody]
  · rw [outline_cons]
    rcases hbody with hbody | hbody <;> rw [hbody] <;> decide

theorem secondsOf?_eq_none (h : outline text ∉ [[], ['-'], ['.'], ['-', '.']]) :
    secondsOf? text = none :=
  Option.eq_none_iff_forall_not_mem.2 fun _ hs => h (outline_of_secondsOf? hs)

end FormLetter
