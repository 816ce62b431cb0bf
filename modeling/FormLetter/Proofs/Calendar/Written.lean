import FormLetter.Proofs.Calendar.Letter

/-!
# Reading what a pattern writes

A pattern whose letters stand apart writes a date so that the layout of the same items reads it:
each item reads first what its letter wrote, and leaves what the others wrote.

* `letterItem`, `letterField?`: the item that reads what a letter writes, and its field.
* `head?_readings_padded`, `head?_readings_ofNat`, `head?_readings_year`, `takeName?_monthName`: a
  number or a name is first read as itself.
* `head?_readings_of_isReadable`: an item reads first what its letter wrote.
* `readItems?_render`: the layout of a pattern reads what the pattern writes.
* `Moment.get_written`: a field is what its letters write, if there are any.
* `Moment.keeping`, `readLayout?_render`: the moment that is read lacks what is not written.
-/

namespace FormLetter

open Text

/-! ## Items and fields of letters -/

/-- The item that reads what a character of a pattern writes. -/
def letterItem : Char → LayoutItem
  | 'd' | 'j' => .day
  | 'm' => .month
  | 'F' => .monthName
  | 'M' => .monthAbbreviation
  | 'Y' => .year
  | 'H' => .hour
  | 'i' => .minute
  | 's' => .second
  | ' ' => .blanks
  | c => .char c

/-- The field that a letter of a pattern stands for. -/
def letterField? : Char → Option DateField
  | 'd' | 'j' => some .day
  | 'm' | 'F' | 'M' => some .month
  | 'Y' => some .year
  | 'H' => some .hour
  | 'i' => some .minute
  | 's' => some .second
  | _ => none

/-- A field of a moment. -/
def Moment.field (moment : Moment) : DateField → Nat
  | .year => moment.date.year
  | .month => moment.date.month
  | .day => moment.date.day
  | .hour => moment.time.hour
  | .minute => moment.time.minute
  | .second => moment.time.second

variable {moment : Moment} {pattern rest : Text} {c : Char} {n : Nat}

/-! ## The first reading of a number -/

theorem twoDigits?_digitChar {first : Nat → Bool} {second : Nat → Nat → Bool} {a b : Nat}
    (ha : a < 10) (hb : b < 10) (rest : Text) :
    twoDigits? first second (Nat.digitChar a :: Nat.digitChar b :: rest) =
      if first a && second a b then some (a * 10 + b, rest) else none := by
  simp [twoDigits?, asciiDigit?_digitChar ha, digitValue?_digitChar hb]

theorem twoDigits?_of_not_isDigit {first : Nat → Bool} {second : Nat → Nat → Bool} (a : Char)
    (h : ∀ c ∈ rest.head?, isDigit c = false) : twoDigits? first second (a :: rest) = none := by
  cases rest with
  | nil => rfl
  | cons b rest =>
    have hb : digitValue? b = none := by
      rw [← Option.not_isSome_iff_eq_none]
      exact Bool.eq_false_iff.1 (h b rfl)
    simp [twoDigits?, hb]

theorem isAsciiDigitAt_digitChar {a : Nat} (ha : a < 10) (rest : Text) :
    isAsciiDigitAt (Nat.digitChar a :: rest) = true := by
  simp [isAsciiDigitAt, Nat.isDigit_digitChar, ha]

/-- The numbers that are written with two digits for an item. -/
def LayoutItem.Admits : LayoutItem → Nat → Prop
  | .day, n => 1 ≤ n ∧ n ≤ 31
  | .month, n => 1 ≤ n ∧ n ≤ 12
  | .hour, n => n ≤ 23
  | .minute, n => n ≤ 59
  | .second, n => n ≤ 59
  | _, _ => False

theorem LayoutItem.Admits.lt {item : LayoutItem} (h : item.Admits n) : n < 100 := by
  cases item with
  | day => exact Nat.lt_of_le_of_lt h.2 (by decide)
  | month => exact Nat.lt_of_le_of_lt h.2 (by decide)
  | hour => exact Nat.lt_of_le_of_lt h (by decide)
  | minute => exact Nat.lt_of_le_of_lt h (by decide)
  | second => exact Nat.lt_of_le_of_lt h (by decide)
  | _ => exact h.elim

/-- A number of two digits is first read as itself. -/
theorem head?_readings_padded {item : LayoutItem} (h : item.Admits n) (rest : Text) :
    (item.readings (padded 2 n ++ rest)).head? = some ⟨item.field?.map (·, n), rest⟩ := by
  have hn := h.lt
  have hhigh : n / 10 < 10 := by omega
  have hlow : n % 10 < 10 := by omega
  have hvalue : n / 10 * 10 + n % 10 = n := by omega
  rw [padded_two hn]
  -- Which reading comes first depends on the first digit.
  cases item with
  | day =>
    obtain ⟨hone, hmax⟩ : 1 ≤ n ∧ n ≤ 31 := h
    simp only [LayoutItem.readings, List.cons_append, List.nil_append, List.drop_one,
      List.tail_cons, twoDigits?_digitChar hhigh hlow, isAsciiDigitAt_digitChar hlow, hvalue]
    have htens : n / 10 = 0 ∧ 1 ≤ n % 10 ∨ n / 10 = 1 ∨ n / 10 = 2 ∨ n / 10 = 3 ∧ n % 10 ≤ 1 := by
      omega
    rcases htens with ⟨htens, hunit⟩ | htens | htens | ⟨htens, hunit⟩
    · simp [htens, hunit, LayoutItem.field?]
    · simp [htens, LayoutItem.field?]
    · simp [htens, LayoutItem.field?]
    · simp [htens, hunit, LayoutItem.field?]
  | month =>
    obtain ⟨hone, hmax⟩ : 1 ≤ n ∧ n ≤ 12 := h
    simp only [LayoutItem.readings, List.cons_append, List.nil_append, List.drop_one,
      List.tail_cons, twoDigits?_digitChar hhigh hlow, isAsciiDigitAt_digitChar hlow, hvalue]
    have htens : n / 10 = 0 ∧ 1 ≤ n % 10 ∨ n / 10 = 1 ∧ n % 10 ≤ 2 := by omega
    rcases htens with ⟨htens, hunit⟩ | ⟨htens, hunit⟩
    · simp [htens, hunit, LayoutItem.field?]
    · simp [htens, hunit, LayoutItem.field?]
  | hour =>
    have hmax : n ≤ 23 := h
    simp only [LayoutItem.readings, List.cons_append, List.nil_append, List.drop_one,
      List.tail_cons, twoDigits?_digitChar hhigh hlow, isAsciiDigitAt_digitChar hlow, hvalue]
    have htens : n / 10 ≤ 1 ∨ n / 10 = 2 ∧ n % 10 ≤ 3 := by omega
    rcases htens with htens | ⟨htens, hunit⟩
    · have hne : n / 10 ≠ 2 := by omega
      simp [htens, hne, LayoutItem.field?]
    · simp [htens, hunit, LayoutItem.field?]
  | minute =>
    have hmax : n ≤ 59 := h
    have htens : n / 10 ≤ 5 := by omega
    simp [LayoutItem.readings, twoDigits?_digitChar hhigh hlow, hvalue, htens, LayoutItem.field?]
  | second =>
    have hmax : n ≤ 59 := h
    have htens : n / 10 ≤ 5 := by omega
    have hne : n / 10 ≠ 6 := by omega
    simp [LayoutItem.readings, twoDigits?_digitChar hhigh hlow, hvalue, htens, hne,
      LayoutItem.field?]
  | _ => exact h.elim

/-- A day without a leading zero is first read as itself, if no digit follows. -/
theorem head?_readings_ofNat (hone : 1 ≤ n) (hmax : n ≤ 31)
    (hrest : ∀ c ∈ rest.head?, isDigit c = false) :
    (LayoutItem.day.readings (ofNat n ++ rest)).head? = some ⟨some (.day, n), rest⟩ := by
  by_cases hten : n < 10
  · rw [ofNat_of_lt_ten hten]
    simp [LayoutItem.readings, twoDigits?_of_not_isDigit _ hrest, isAsciiDigitAt_digitChar hten,
      oneDigit?, digitValue?_digitChar hten, hone]
  · have hadmits : LayoutItem.day.Admits n := ⟨hone, hmax⟩
    have hpadded : ofNat n = padded 2 n := by
      rw [ofNat_of_lt_hundred (by omega) (by omega), padded_two (by omega)]
    rw [hpadded]
    exact head?_readings_padded hadmits rest

theorem head?_readings_year (hn : n < 10000) (rest : Text) :
    (LayoutItem.year.readings (padded 4 n ++ rest)).head? = some ⟨some (.year, n), rest⟩ := by
  rw [padded_four hn]
  have h1 : n / 1000 < 10 := by omega
  have h2 : n / 100 % 10 < 10 := by omega
  have h3 : n / 10 % 10 < 10 := by omega
  have h4 : n % 10 < 10 := by omega
  have hvalue : ((n / 1000 * 10 + n / 100 % 10) * 10 + n / 10 % 10) * 10 + n % 10 = n := by omega
  simp [LayoutItem.readings, fixedDigits?, digitsValue, isDigit_digitChar h1,
    isDigit_digitChar h2, isDigit_digitChar h3, isDigit_digitChar h4, digitValue?_digitChar h1,
    digitValue?_digitChar h2, digitValue?_digitChar h3, digitValue?_digitChar h4, hvalue]

/-! ## The first reading of a name -/

/-- The name of a month is taken as that month, in full or by its first letters. -/
theorem takeName?_monthName (h : 1 ≤ n ∧ n ≤ 12) {write : String → Text}
    (hwrite : write ∈ [String.toList, abbreviated]) (rest : Text) :
    takeName? (monthNames.map write) (write (monthName n) ++ rest) = some (n, rest) := by
  have hmonth : n = 1 ∨ n = 2 ∨ n = 3 ∨ n = 4 ∨ n = 5 ∨ n = 6 ∨ n = 7 ∨ n = 8 ∨ n = 9 ∨ n = 10 ∨
      n = 11 ∨ n = 12 := by omega
  simp only [List.mem_cons, List.not_mem_nil, or_false] at hwrite
  rcases hwrite with rfl | rfl <;>
    rcases hmonth with rfl | rfl | rfl | rfl | rfl | rfl | rfl | rfl | rfl | rfl | rfl | rfl <;> rfl

/-! ## The first reading of what a character writes -/

/-- The field that a character of a pattern stands for, with its value. -/
def Moment.entry? (moment : Moment) (c : Char) : Option (DateField × Nat) :=
  (letterField? c).map fun field => (field, moment.field field)

/-- An item reads first what its letter wrote. -/
theorem head?_readings_letter (h : c ∈ dateLetters) (hrest : ∀ d ∈ rest.head?, isDigit d = false) :
    ((letterItem c).readings (moment.piece c ++ rest)).head? = some ⟨moment.entry? c, rest⟩ := by
  have hday := moment.date.valid.2.1
  obtain ⟨hhour, hminute, hsecond, -⟩ := moment.time.valid
  have hadmits (item : LayoutItem) (n : Nat) (h : item.Admits n) :
      (item.readings (padded 2 n ++ rest)).head? = some ⟨item.field?.map (·, n), rest⟩ :=
    head?_readings_padded h rest
  simp only [dateLetters, List.mem_cons, List.not_mem_nil, or_false] at h
  rcases h with rfl | rfl | rfl | rfl | rfl | rfl | rfl | rfl | rfl
  · exact hadmits .day _ ⟨hday, moment.date.day_le⟩
  · exact head?_readings_ofNat hday moment.date.day_le hrest
  · exact hadmits .month _ moment.date.month_le
  · have hname := takeName?_monthName moment.date.month_le (by simp : String.toList ∈ _) rest
    simp only [monthName] at hname
    simp [letterItem, LayoutItem.readings, Moment.piece, renderLetter?, hname, Moment.entry?,
      letterField?, Moment.field]
  · have hname := takeName?_monthName moment.date.month_le (by simp : abbreviated ∈ _) rest
    simp only [monthName] at hname
    simp [letterItem, LayoutItem.readings, Moment.piece, renderLetter?, hname, Moment.entry?,
      letterField?, Moment.field]
  · exact head?_readings_year moment.date.lt_width.1 rest
  · exact hadmits .hour _ (Nat.le_of_lt_succ hhour)
  · exact hadmits .minute _ (Nat.le_of_lt_succ hminute)
  · exact hadmits .second _ (Nat.le_of_lt_succ hsecond)

/-- A gap reads first itself, and blanks that no blank follows. -/
theorem head?_readings_gap (h : c ∈ dateGaps)
    (hrest : c = ' ' → ∀ d ∈ rest.head?, isBlank d = false) :
    ((letterItem c).readings (moment.piece c ++ rest)).head? = some ⟨moment.entry? c, rest⟩ := by
  rw [moment.piece_of_mem_dateGaps h]
  simp only [dateGaps, List.mem_cons, List.not_mem_nil, or_false] at h
  rcases h with rfl | rfl | rfl | rfl | rfl | rfl
  · have hrests : blankRests rest = [] := by
      cases rest with
      | nil => rfl
      | cons d rest => simp [blankRests, hrest rfl d rfl]
    simp [letterItem, LayoutItem.readings, blankRests, hrests, isBlank, Moment.entry?, letterField?]
  all_goals rfl

/-- The item of a character of a readable pattern reads first what the character wrote. -/
theorem head?_readings_of_isReadable (h : isReadable (c :: pattern) = true) :
    ((letterItem c).readings (moment.render (c :: pattern))).head? =
      some ⟨moment.entry? c, moment.render pattern⟩ := by
  rw [moment.render_cons_of_isReadable h]
  obtain ⟨⟨hletter, hnext⟩ | ⟨hgap, hnext⟩, hpattern⟩ := isReadable_cons h
  · refine head?_readings_letter hletter fun d hd => isDigit_of_mem_dateGaps d ?_
    exact moment.mem_dateGaps_of_mem_head hpattern hnext d hd
  · exact head?_readings_gap hgap fun hblank => moment.isBlank_of_mem_head hpattern (hnext hblank)

/-! ## Reading patterns -/

/-- The fields set to what a pattern writes, one character after the other. -/
def Moment.written (moment : Moment) (pattern : Text) (fields : DateFields) : DateFields :=
  pattern.foldl (fun fields c => fields.set (moment.entry? c)) fields

/-- The layout of a readable pattern reads what the pattern writes. -/
theorem readItems?_render (moment : Moment) (h : isReadable pattern = true) (fields : DateFields) :
    readItems? (pattern.map letterItem) fields (moment.render pattern) =
      some (moment.written pattern fields, []) := by
  induction pattern generalizing fields with
  | nil => rfl
  | cons c pattern ih =>
    obtain ⟨others, hreadings⟩ := List.head?_eq_some_iff.1 (head?_readings_of_isReadable h)
    rw [List.map_cons, readItems?, hreadings, List.findSome?_cons]
    rw [ih (isReadable_cons h).2]
    rfl

/-! ## The moment that is read -/

/-- A field. -/
def DateFields.get (fields : DateFields) : DateField → Nat
  | .year => fields.year
  | .month => fields.month
  | .day => fields.day
  | .hour => fields.hour
  | .minute => fields.minute
  | .second => fields.second

theorem DateFields.get_set (fields : DateFields) (entry : Option (DateField × Nat))
    (field : DateField) :
    (fields.set entry).get field =
      if entry.map Prod.fst = some field then (entry.map Prod.snd).getD 0
      else fields.get field := by
  match entry with
  | none => rfl
  | some (written, n) => cases written <;> cases field <;> rfl

/-- A field is what its letters write, if the pattern has one. -/
theorem Moment.get_written (moment : Moment) (pattern : Text) (fields : DateFields)
    (field : DateField) :
    (moment.written pattern fields).get field =
      if some field ∈ pattern.map letterField? then moment.field field else fields.get field := by
  induction pattern generalizing fields with
  | nil => rfl
  | cons c pattern ih =>
    have hstep : (fields.set (moment.entry? c)).get field =
        if letterField? c = some field then moment.field field else fields.get field := by
      rw [DateFields.get_set, Moment.entry?]
      cases letterField? c with
      | none => rfl
      | some found =>
        by_cases hfield : found = field
        · simp [hfield]
        · simp [hfield]
    rw [Moment.written, List.foldl_cons, ← Moment.written, ih, hstep]
    by_cases hc : letterField? c = some field
    · simp [hc]
    · simp [hc, Ne.symm hc]

/-- A moment without the fields that a pattern has no letter for: they are zero, and no offset is
known. -/
def Moment.keeping (moment : Moment) (pattern : Text) : Moment where
  date := moment.date
  time :=
    { hour := if 'H' ∈ pattern then moment.time.hour else 0
      minute := if 'i' ∈ pattern then moment.time.minute else 0
      second := if 's' ∈ pattern then moment.time.second else 0
      valid := by
        obtain ⟨hhour, hminute, hsecond, -⟩ := moment.time.valid
        refine ⟨?_, ?_, ?_, by decide⟩ <;> split <;> first | assumption | decide }

/-- The letters that stand for the fields of a time of day. -/
def clockLetters : List (Char × DateField) := [('H', .hour), ('i', .minute), ('s', .second)]

theorem letterField?_eq_iff {letter : Char} {field : DateField} (h : (letter, field) ∈ clockLetters)
    (c : Char) : letterField? c = some field ↔ c = letter := by
  simp only [clockLetters, List.mem_cons, Prod.mk.injEq, List.not_mem_nil, or_false] at h
  constructor
  · intro hc
    unfold letterField? at hc
    rcases h with ⟨rfl, rfl⟩ | ⟨rfl, rfl⟩ | ⟨rfl, rfl⟩ <;> split at hc <;> first | rfl | cases hc
  · rintro rfl
    rcases h with ⟨rfl, rfl⟩ | ⟨rfl, rfl⟩ | ⟨rfl, rfl⟩ <;> rfl

/-- A field of a time of day is what its letter writes, or zero. -/
theorem Moment.get_written_clock (moment : Moment) (pattern : Text) {letter : Char}
    {field : DateField} (h : (letter, field) ∈ clockLetters) :
    (moment.written pattern {}).get field = if letter ∈ pattern then moment.field field else 0 := by
  have hzero : ∀ entry ∈ clockLetters, DateFields.get {} entry.2 = 0 := by decide
  rw [moment.get_written pattern {} field, hzero _ h]
  simp only [List.mem_map, letterField?_eq_iff h, exists_eq_right]

/-- Whether a pattern has a letter for each field of a day. -/
def WritesDay (pattern : Text) : Prop :=
  ∀ field ∈ [DateField.year, .month, .day], some field ∈ pattern.map letterField?

instance (pattern : Text) : Decidable (WritesDay pattern) :=
  inferInstanceAs (Decidable (∀ field ∈ _, _))

theorem TimeOfDay.of?_eq (time : TimeOfDay) :
    TimeOfDay.of? time.hour time.minute time.second time.microsecond = some time := by
  rw [TimeOfDay.of?, dif_pos time.valid]

theorem Moment.of?_eq (moment : Moment) (hmicrosecond : moment.time.microsecond = 0)
    (hoffset : moment.offset = none) :
    Moment.of? moment.date.year moment.date.month moment.date.day moment.time.hour
      moment.time.minute moment.time.second = some moment := by
  have htime := moment.time.of?_eq
  rw [hmicrosecond] at htime
  rw [Moment.of?, Date.of?_eq, htime]
  exact congrArg some (by rw [← hoffset])

/-- The layout of a readable pattern with a day reads the moment that the pattern keeps. -/
theorem readLayout?_render (moment : Moment) (h : isReadable pattern = true)
    (hday : WritesDay pattern) :
    readLayout? (pattern.map letterItem) (moment.render pattern) =
      some (moment.keeping pattern) := by
  have hread := readItems?_render moment h {}
  have hdate {field : DateField} (hfield : field ∈ [DateField.year, .month, .day]) :
      (moment.written pattern {}).get field = moment.field field := by
    rw [moment.get_written pattern {} field, if_pos (hday field hfield)]
  have hclock {letter : Char} {field : DateField} (hletter : (letter, field) ∈ clockLetters) :=
    moment.get_written_clock pattern hletter
  generalize moment.written pattern {} = fields at hread hdate hclock
  have hyear : fields.year = moment.date.year := hdate (by decide : DateField.year ∈ _)
  have hmonth : fields.month = moment.date.month := hdate (by decide : DateField.month ∈ _)
  have hmday : fields.day = moment.date.day := hdate (by decide : DateField.day ∈ _)
  have hhour : fields.hour = (moment.keeping pattern).time.hour :=
    hclock (by decide : ('H', DateField.hour) ∈ _)
  have hminute : fields.minute = (moment.keeping pattern).time.minute :=
    hclock (by decide : ('i', DateField.minute) ∈ _)
  have hsecond : fields.second = (moment.keeping pattern).time.second :=
    hclock (by decide : ('s', DateField.second) ∈ _)
  unfold readLayout?
  rw [hread]
  simp only [hyear, hmonth, hmday, hhour, hminute, hsecond]
  exact (moment.keeping pattern).of?_eq rfl rfl

end FormLetter
