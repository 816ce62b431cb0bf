import FormLetter.Proofs.Calendar.Missed
import FormLetter.Proofs.Calendar.Ordinal
import FormLetter.Proofs.Calendar.Standard

/-!
# Written dates are read back

A date that is written after one of the usual patterns is read back, up to the fields that the
pattern does not write. The reader tries numbers of seconds, the standard and one layout after the
other; what has to be seen is that nothing it tries before the right layout reads the text as well.

* `layoutPatterns`, `standardPatterns`, `readablePatterns`: the patterns.
* `misses_of_mem_before`: the layouts that are tried before the right one do not read the text.
* `readLayouts?_render`: the first layout that reads the text is the right one.
* `Moment.read?_render`: written dates are read back.
-/

namespace FormLetter

open Text

variable {moment : Moment} {text pattern : Text} {c : Char}

/-! ## The layout that reads a text -/

/-- The patterns that a layout reads, with the day or the month first. -/
def layoutPatterns (dayFirst : Bool) : List String :=
  ["Y/m/d", "j F Y", "j M Y", "F j, Y", "M j, Y"] ++
    if dayFirst then ["d/m/Y", "d-m-Y", "d.m.Y", "d/m/Y H:i", "d/m/Y H:i:s", "d-m-Y H:i"]
    else ["m/d/Y", "m-d-Y", "m.d.Y", "m/d/Y H:i", "m/d/Y H:i:s", "m-d-Y H:i"]

/-- A pattern with the names of months in full. -/
def unabbreviated (pattern : Text) : Text := pattern.map fun c => if c = 'M' then 'F' else c

theorem mem_unabbreviated (hc : c ∉ ['M', 'F']) : c ∈ unabbreviated pattern ↔ c ∈ pattern := by
  simp only [List.mem_cons, List.not_mem_nil, or_false, not_or] at hc
  rw [unabbreviated, List.mem_map]
  constructor
  · rintro ⟨d, hd, hcd⟩
    split at hcd
    · exact absurd hcd.symm hc.2
    · rwa [← hcd]
  · exact fun h => ⟨c, h, if_neg hc.1⟩

/-- May is its own abbreviation. -/
theorem render_unabbreviated (h : '\\' ∉ pattern) (hmay : moment.date.month = 5) :
    moment.render (unabbreviated pattern) = moment.render pattern := by
  have hpiece : ∀ c, moment.piece (if c = 'M' then 'F' else c) = moment.piece c := by
    intro c
    split
    · rename_i hc
      rw [hc, Moment.piece, Moment.piece]
      simp only [renderLetter?, hmay]
      rfl
    · rfl
  rw [moment.render_eq_flatMap h, moment.render_eq_flatMap (mt (mem_unabbreviated (by decide)).1 h),
    unabbreviated, List.flatMap_map]
  simp only [hpiece]

theorem keeping_unabbreviated (moment : Moment) (pattern : Text) :
    moment.keeping (unabbreviated pattern) = moment.keeping pattern := by
  have hmem {c : Char} (hc : c ∉ ['M', 'F']) : c ∈ unabbreviated pattern ↔ c ∈ pattern :=
    mem_unabbreviated hc
  have hhour := hmem (by decide : 'H' ∉ ['M', 'F'])
  have hminute := hmem (by decide : 'i' ∉ ['M', 'F'])
  have hsecond := hmem (by decide : 's' ∉ ['M', 'F'])
  simp only [Moment.keeping, hhour, hminute, hsecond]

/-- The layouts that are tried before the right one do not read the text, but that a name may be a
full one in May. -/
theorem misses_of_mem_before : ∀ dayFirst, ∀ pattern ∈ layoutPatterns dayFirst,
    ∀ month ∈ List.range' 1 12,
      ∀ items ∈ (layouts dayFirst).takeWhile (· != pattern.toList.map letterItem),
        misses month pattern.toList items = true ∨
          month = 5 ∧ items = (unabbreviated pattern.toList).map letterItem := by
  decide +kernel

/-- What is tried before an element gives nothing or the same. -/
theorem findSome?_of_takeWhile {α β : Type} [BEq α] [LawfulBEq α] {f : α → Option β} {a : α} {b : β}
    {l : List α} (ha : a ∈ l) (hf : f a = some b)
    (h : ∀ x ∈ l.takeWhile (· != a), f x = none ∨ f x = some b) : l.findSome? f = some b := by
  induction l with
  | nil => cases ha
  | cons x l ih =>
    by_cases hx : x = a
    · rw [hx, List.findSome?_cons, hf]
    · have hne : (x != a) = true := bne_iff_ne.2 hx
      rw [List.takeWhile_cons, if_pos hne] at h
      obtain ⟨hfirst, hothers⟩ := List.forall_mem_cons.1 h
      rw [List.findSome?_cons]
      rcases hfirst with hnone | hsome
      · rw [hnone]
        exact ih (List.mem_of_ne_of_mem (Ne.symm hx) ha) hothers
      · rw [hsome]

/-- What is needed of a pattern. -/
theorem layoutPatterns_spec : ∀ dayFirst, ∀ pattern ∈ layoutPatterns dayFirst,
    (isReadable pattern.toList = true ∧ WritesDay pattern.toList ∧
      pattern.toList.map letterItem ∈ layouts dayFirst) ∧
      isReadable (unabbreviated pattern.toList) = true ∧
        WritesDay (unabbreviated pattern.toList) := by
  decide +kernel

theorem Date.month_mem_range' (date : Date) : date.month ∈ List.range' 1 12 := by
  obtain ⟨hone, hmax⟩ := date.month_le
  rw [List.mem_range'_1]
  omega

/-- The first layout that reads what a pattern writes is the one of the pattern. -/
theorem readLayouts?_render (moment : Moment) {dayFirst : Bool} {pattern : String}
    (h : pattern ∈ layoutPatterns dayFirst) :
    readLayouts? dayFirst (moment.render pattern.toList) =
      some (moment.keeping pattern.toList) := by
  obtain ⟨⟨hreadable, hday, hmem⟩, hreadable', hday'⟩ := layoutPatterns_spec dayFirst pattern h
  refine findSome?_of_takeWhile hmem (readLayout?_render moment hreadable hday) ?_
  intro items hitems
  rcases misses_of_mem_before dayFirst pattern h _ moment.date.month_mem_range' items hitems with
    hmisses | ⟨hmay, rfl⟩
  · exact Or.inl (readLayout?_eq_none_of_misses moment hreadable hmisses)
  · right
    have hread := readLayout?_render moment hreadable' hday'
    rwa [render_unabbreviated (notMem_of_isReadable hreadable) hmay, keeping_unabbreviated] at hread

/-! ## Ends of what is written -/

theorem Moment.endsSolid_piece (moment : Moment) (h : c ∈ dateLetters) :
    EndsSolid (moment.piece c) :=
  endsSolid_of_any (moment.piece_ne_nil h)
    (List.any_eq_false.2 fun d hd => by simp [moment.isBlank_of_mem_piece h d hd])

/-- What a readable pattern with a letter at its end writes ends in no blank. -/
theorem endsSolid_render (moment : Moment) (h : isReadable pattern = true)
    (hlast : ∃ c ∈ pattern.getLast?, c ∈ dateLetters) : EndsSolid (moment.render pattern) := by
  obtain ⟨c, hc, hletter⟩ := hlast
  obtain ⟨front, rfl⟩ := List.getLast?_eq_some_iff.1 hc
  rw [moment.render_eq_flatMap (notMem_of_isReadable h), List.flatMap_append,
    List.flatMap_singleton]
  exact (moment.endsSolid_piece hletter).append _

/-! ## Reading back -/

/-- The patterns whose dates are read back, with the day or the month first. -/
def readablePatterns (dayFirst : Bool) : List String :=
  standardPatterns ++ "jS F Y" :: layoutPatterns dayFirst

/-- What is needed of a pattern to be read at all: it is readable, starts and ends with a letter,
and no number of seconds has its outline. -/
theorem readablePatterns_spec : ∀ dayFirst, ∀ pattern ∈ standardPatterns ++ layoutPatterns dayFirst,
    (isReadable pattern.toList = true ∧ pattern.toList.head?.any dateLetters.contains = true ∧
      pattern.toList.getLast?.any dateLetters.contains = true) ∧
      ∀ month ∈ List.range' 1 12,
        patternOutline month pattern.toList ∉ [[], ['-'], ['.'], ['-', '.']] := by
  decide +kernel

/-- A text without blanks at its ends that is no number of seconds is read as it stands. -/
theorem Moment.read?_of_endsSolid (hhead : ∀ c ∈ text.head?, isBlank c = false)
    (hlast : EndsSolid text) (hseconds : secondsOf? text = none) (dayFirst : Bool) :
    Moment.read? dayFirst text =
      (readIso? text).or (readLayouts? dayFirst (dropOrdinals text)) := by
  have hstrip := strip_of_endsSolid hhead hlast
  have hne : text ≠ [] := by
    obtain ⟨front, c, rfl, -⟩ := hlast
    simp
  rw [Moment.read?_of_secondsOf? (by rwa [hstrip]) (by rwa [hstrip]), hstrip]

theorem Moment.read?_render_of_mem (moment : Moment) {dayFirst : Bool} {pattern : String}
    (h : pattern ∈ standardPatterns ++ layoutPatterns dayFirst) :
    Moment.read? dayFirst (moment.render pattern.toList) =
      (readIso? (moment.render pattern.toList)).or
        (readLayouts? dayFirst (moment.render pattern.toList)) := by
  obtain ⟨⟨hreadable, hfirst, hlast⟩, houtline⟩ := readablePatterns_spec dayFirst pattern h
  have hseconds : secondsOf? (moment.render pattern.toList) = none := by
    apply secondsOf?_eq_none
    rw [outline_render moment hreadable]
    exact houtline _ moment.date.month_mem_range'
  have hhead := moment.isBlank_of_mem_head hreadable (by simpa [Option.any_eq_true] using hfirst)
  have hends := endsSolid_render moment hreadable (by simpa [Option.any_eq_true] using hlast)
  rw [read?_of_endsSolid hhead hends hseconds, dropOrdinals_render moment hreadable]

/-- What a layout reads is none of the standard. -/
theorem readIso?_render_of_mem (moment : Moment) {dayFirst : Bool} {pattern : String}
    (h : pattern ∈ layoutPatterns dayFirst) :
    Moment.readIso? (moment.render pattern.toList) = none := by
  have hstart : ∀ dayFirst, ∀ pattern ∈ layoutPatterns dayFirst,
      pattern = "Y/m/d" ∨ startsShort pattern.toList = true := by decide
  rcases hstart dayFirst pattern h with rfl | hshort
  · have htext : moment.render "Y/m/d".toList = padded 4 moment.date.year ++ '/' ::
        moment.render "m/d".toList := by
      simp [Moment.render, renderLetter?]
    rw [htext, padded_four moment.date.lt_width.1]
    exact readIso?_slash _ _ _ _ _
  · obtain ⟨⟨hreadable, -⟩, -⟩ := layoutPatterns_spec dayFirst pattern h
    obtain ⟨c, hc, hdigit⟩ := exists_mem_take_of_startsShort moment hreadable hshort
    exact readIso?_eq_none hc hdigit

/-! ## Days with ordinal endings -/

/-- The name of a month has more characters than a sign and a point. -/
theorem secondsOf?_render_ending (moment : Moment) :
    secondsOf? (moment.render "jS F Y".toList) = none := by
  have hshort : ∀ text ∈ [[], ['-'], ['.'], ['-', '.']], text.length ≤ 2 := by decide
  have hlong : ∀ month ∈ List.range' 1 12, 2 < (patternOutline month " F Y".toList).length := by
    decide +kernel
  have hreadable : isReadable " F Y".toList = true := by decide
  obtain ⟨a, b, -, hrender⟩ := exists_render_ending moment
  have htext : moment.render "jS F Y".toList =
      ofNat moment.date.day ++ [a, b] ++ moment.render " F Y".toList := by
    rw [List.append_assoc]
    exact hrender _
  refine secondsOf?_eq_none fun hmem => ?_
  have hlength := hshort _ hmem
  have hmonth := hlong _ moment.date.month_mem_range'
  rw [htext, outline_append, outline_render moment hreadable, List.length_append] at hlength
  omega

/-- The ending stands among the first four characters. -/
theorem readIso?_render_ending (moment : Moment) :
    Moment.readIso? (moment.render "jS F Y".toList) = none := by
  have hletters : ∀ c ∈ endingLetters, isDigit c = false := forall_mem_of_all (by decide)
  obtain ⟨a, b, hending, hrender⟩ := exists_render_ending moment
  have htext : moment.render "jS F Y".toList =
      ofNat moment.date.day ++ a :: b :: moment.render " F Y".toList := hrender _
  have hlength := length_ofNat_le moment.date.lt_width.2.2
  refine readIso?_eq_none ?_ (hletters a (mem_endingLetters hending))
  rw [htext]
  exact mem_take_of_length_lt (by omega) a _

/-- A day with its ordinal ending is read as the day without. -/
theorem Moment.read?_render_ending (moment : Moment) (dayFirst : Bool) :
    Moment.read? dayFirst (moment.render "jS F Y".toList) =
      some (moment.keeping "jS F Y".toList) := by
  obtain ⟨a, b, -, hrender⟩ := exists_render_ending moment
  have htext : moment.render "jS F Y".toList =
      moment.piece 'j' ++ ([a, b] ++ moment.render " F Y".toList) := hrender _
  have hhead : ∀ c ∈ (moment.render "jS F Y".toList).head?, isBlank c = false := by
    rw [htext]
    exact moment.isBlank_of_mem_head_piece (by decide) _
  have hlast : EndsSolid (moment.render "jS F Y".toList) := by
    rw [htext]
    exact ((endsSolid_render moment (by decide) ⟨'Y', by decide, by decide⟩).append _).append _
  have hdrop : dropOrdinals (moment.render "jS F Y".toList) = moment.render "j F Y".toList :=
    dropOrdinals_render_ending moment (by decide)
  rw [read?_of_endsSolid hhead hlast (secondsOf?_render_ending moment),
    readIso?_render_ending moment, Option.none_or, hdrop,
    readLayouts?_render moment (by cases dayFirst <;> decide)]
  rfl

/-! ## All patterns -/

/-- **Written dates are read back.** What one of the usual patterns writes is read, with the day or
the month first as the pattern asks, as the moment without what the pattern does not write. -/
theorem Moment.read?_render {dayFirst : Bool} {pattern : String}
    (h : pattern ∈ readablePatterns dayFirst) (moment : Moment) :
    Moment.read? dayFirst (moment.render pattern.toList) =
      some (moment.keeping pattern.toList) := by
  rcases List.mem_append.1 h with hstandard | h
  · rw [read?_render_of_mem moment (List.mem_append_left _ hstandard),
      readIso?_render moment hstandard, Option.some_or]
  rcases List.mem_cons.1 h with rfl | hlayout
  · exact read?_render_ending moment dayFirst
  · rw [read?_render_of_mem moment (List.mem_append_right _ hlayout),
      readIso?_render_of_mem moment hlayout, Option.none_or, readLayouts?_render moment hlayout]

theorem Moment.read?_render_second_of_march :
    "jS F Y" ∈ readablePatterns true ∧
      Moment.read? true "2nd March 0041".toList = some { date := ⟨41, 3, 2, by decide⟩ } := by
  have hpattern : "jS F Y" ∈ readablePatterns true := by decide
  have hread := Moment.read?_render hpattern
    { date := ⟨41, 3, 2, by decide⟩, time := { hour := 14, minute := 30 } }
  have htext : Moment.render { date := ⟨41, 3, 2, by decide⟩, time := { hour := 14, minute := 30 } }
      "jS F Y".toList = "2nd March 0041".toList := by decide
  rw [htext] at hread
  exact ⟨hpattern, hread⟩

end FormLetter
