import FormLetter.Calendar.Reading
import FormLetter.Proofs.Calendar.Numbers

/-!
# Day first or month first

A date in numbers is read with the day or with the month first, and with the other first if that
fails. Which one is tried first decides no more than which of the two numbers is the day: a text
that both read is read by the same layout, up to the places of the day and the month.

* `DateFields.exchanged`, `Moment.IsExchanged`: the day and the month in each other's place.
* `fill_exchanged`: the other fields of a date do not depend on that place.
* `isExchanged_of_readLayout?`: a text that is read day first and month first.
* `Moment.read?_dayFirst`: the two orders read the same moment, or exchanged ones, or none.
-/

namespace FormLetter

open Text

/-! ## Exchanged dates -/

/-- The fields with the day and the month in each other's place. -/
def DateFields.exchanged (fields : DateFields) : DateFields :=
  { fields with month := fields.day, day := fields.month }

/-- Whether two moments differ only in that the day and the month are exchanged. -/
structure Moment.IsExchanged (moment other : Moment) : Prop where
  /-- The year is the same. -/
  year_eq : other.date.year = moment.date.year
  /-- The month is the day of the other, -/
  month_eq : other.date.month = moment.date.day
  /-- and the day is its month. -/
  day_eq : other.date.day = moment.date.month
  /-- The time of day is the same, -/
  time_eq : other.time = moment.time
  /-- and so is the offset. -/
  offset_eq : other.offset = moment.offset

variable {text : Text} {items : List LayoutItem} {numbers : List Text}
  {fields result : DateFields} {moment other : Moment}

theorem DateFields.exchanged_set {entry : Option (DateField × Nat)}
    (h : ∀ field n, entry = some (field, n) → field ≠ .day ∧ field ≠ .month) :
    fields.exchanged.set entry = (fields.set entry).exchanged := by
  match entry with
  | none => rfl
  | some (.day, n) => exact absurd rfl (h .day n rfl).1
  | some (.month, n) => exact absurd rfl (h .month n rfl).2
  | some (.year, n) => rfl
  | some (.hour, n) => rfl
  | some (.minute, n) => rfl
  | some (.second, n) => rfl

/-- Where no day and no month is set, they may be exchanged before or after. -/
theorem fill_exchanged (h : ∀ item ∈ items, item.field? ≠ some .day ∧ item.field? ≠ some .month) :
    DateFields.fill items numbers fields.exchanged =
      (DateFields.fill items numbers fields).map DateFields.exchanged := by
  induction items generalizing numbers fields with
  | nil => cases numbers <;> rfl
  | cons item items ih =>
    obtain ⟨hitem, hitems⟩ := List.forall_mem_cons.1 h
    cases numbers with
    | nil => rfl
    | cons digits numbers =>
      have hneither : ∀ field n, item.field?.map (·, item.valueOf digits) = some (field, n) →
          field ≠ .day ∧ field ≠ .month := by
        intro field n hentry
        obtain ⟨found, hfield, heq⟩ := Option.map_eq_some_iff.1 hentry
        obtain ⟨rfl, -⟩ := Prod.mk.inj heq
        rw [hfield] at hitem
        exact ⟨fun he => hitem.1 (congrArg some he), fun he => hitem.2 (congrArg some he)⟩
      unfold DateFields.fill
      split
      · rw [DateFields.exchanged_set hneither]
        exact ih hitems
      · rfl

/-! ## Layouts of numbers -/

theorem length_eq_of_fill (h : DateFields.fill items numbers fields = some result) :
    items.length = numbers.length := by
  induction items generalizing numbers fields with
  | nil =>
    cases numbers with
    | nil => rfl
    | cons digits numbers => cases h
  | cons item items ih =>
    cases numbers with
    | nil => cases h
    | cons digits numbers =>
      obtain ⟨-, h⟩ := Option.ite_none_right_eq_some.1 h
      exact congrArg (· + 1) (ih h)

/-- What stands behind the day and the month in the layouts of dates in numbers. -/
def yearTails : List (List LayoutItem) :=
  [[.year], [.shortYear], [.year, .hour, .minute], [.year, .hour, .minute, .second]]

/-- How many numbers stand behind the day and the month, and how long the first is, tells what they
are. -/
theorem yearTail_unique {tail other : List LayoutItem} (ht : tail ∈ yearTails)
    (ho : other ∈ yearTails) {given last : DateFields}
    (h : DateFields.fill tail numbers fields = some result)
    (h' : DateFields.fill other numbers given = some last) : tail = other := by
  have hall : ∀ tail ∈ yearTails, ∀ other ∈ yearTails, tail.length = other.length →
      tail.head?.bind LayoutItem.width? = other.head?.bind LayoutItem.width? → tail = other := by
    decide
  have hwidth {tail : List LayoutItem} (ht : tail ∈ yearTails) {fields result : DateFields}
      (h : DateFields.fill tail numbers fields = some result) :
      tail.head?.bind LayoutItem.width? = numbers.head?.map List.length := by
    have hsome : (tail.head?.bind LayoutItem.width?).isSome = true :=
      (by decide : ∀ tail ∈ yearTails, (tail.head?.bind LayoutItem.width?).isSome = true) tail ht
    obtain ⟨width, hw⟩ := Option.isSome_iff_exists.1 hsome
    obtain ⟨item, hitem, hwidth⟩ := Option.bind_eq_some_iff.1 hw
    obtain ⟨items, rfl⟩ := List.head?_eq_some_iff.1 hitem
    cases numbers with
    | nil => cases h
    | cons digits numbers =>
      obtain ⟨hfits, -⟩ := Option.ite_none_right_eq_some.1 h
      have hlength := of_decide_eq_true (Option.all_eq_true _ _ |>.1 hfits width hwidth)
      rw [hw, hlength]
      rfl
  refine hall tail ht other ho ?_ ?_
  · rw [length_eq_of_fill h, length_eq_of_fill h']
  · rw [hwidth ht h, hwidth ho h']

theorem numberItems_of_mem_dayFirstLayouts : ∀ items ∈ dayFirstLayouts,
    Spaced items = true ∧ ∃ tail ∈ yearTails, numberItems items = .day :: .month :: tail := by
  decide

theorem numberItems_of_mem_monthFirstLayouts : ∀ items ∈ monthFirstLayouts,
    Spaced items = true ∧ ∃ tail ∈ yearTails, numberItems items = .month :: .day :: tail := by
  decide

/-- The numbers of a text that is read day first and month first are those of the same layout with
the day and the month exchanged. -/
theorem eq_exchanged_of_fill {tail other : List LayoutItem} (ht : tail ∈ yearTails)
    (ho : other ∈ yearTails) {last : DateFields}
    (h : DateFields.fill (.day :: .month :: tail) numbers {} = some result)
    (h' : DateFields.fill (.month :: .day :: other) numbers {} = some last) :
    last = result.exchanged := by
  match numbers with
  | [] => cases h
  | [digits] => cases h
  | first :: second :: numbers =>
    have hday : DateFields.fill tail numbers
        { month := digitsValue second, day := digitsValue first } = some result := h
    have hmonth : DateFields.fill other numbers
        { month := digitsValue first, day := digitsValue second } = some last := h'
    obtain rfl := yearTail_unique ht ho hday hmonth
    have hneither : ∀ tail ∈ yearTails, ∀ item ∈ tail,
        item.field? ≠ some .day ∧ item.field? ≠ some .month := by decide
    let given : DateFields := { month := digitsValue second, day := digitsValue first }
    have hexchanged : DateFields.fill tail numbers given.exchanged =
        (DateFields.fill tail numbers given).map DateFields.exchanged :=
      fill_exchanged (hneither tail ht)
    rw [hday] at hexchanged
    exact Option.some.inj (hmonth.symm.trans hexchanged)

/-! ## Moments -/

theorem Date.of?_eq_some {year month day : Nat} {date : Date}
    (h : Date.of? year month day = some date) :
    date.year = year ∧ date.month = month ∧ date.day = day := by
  unfold Date.of? at h
  split at h
  · rw [← Option.some.inj h]
    exact ⟨rfl, rfl, rfl⟩
  · cases h

/-- A text that a layout reads day first and another month first stands for exchanged moments. -/
theorem isExchanged_of_readLayout? {others : List LayoutItem} (hi : items ∈ dayFirstLayouts)
    (ho : others ∈ monthFirstLayouts) (h : readLayout? items text = some moment)
    (h' : readLayout? others text = some other) : moment.IsExchanged other := by
  obtain ⟨result, hread, hof⟩ := readLayout?_eq_some h
  obtain ⟨last, hread', hof'⟩ := readLayout?_eq_some h'
  obtain ⟨hspaced, tail, ht, hitems⟩ := numberItems_of_mem_dayFirstLayouts items hi
  obtain ⟨hspaced', tail', ht', hothers⟩ := numberItems_of_mem_monthFirstLayouts others ho
  have hfill := fill_of_readItems? hspaced hread
  have hfill' := fill_of_readItems? hspaced' hread'
  rw [hitems] at hfill
  rw [hothers] at hfill'
  obtain rfl := eq_exchanged_of_fill ht ht' hfill hfill'
  simp only [Moment.of?, Option.bind_eq_bind, Option.bind_eq_some_iff, Option.some.injEq]
    at hof hof'
  obtain ⟨date, hdate, time, htime, rfl⟩ := hof
  obtain ⟨date', hdate', time', htime', rfl⟩ := hof'
  obtain ⟨hyear, hmonth, hday⟩ := Date.of?_eq_some hdate
  obtain ⟨hyear', hmonth', hday'⟩ := Date.of?_eq_some hdate'
  refine ⟨hyear'.trans hyear.symm, hmonth'.trans hday.symm, hday'.trans hmonth.symm, ?_, rfl⟩
  exact Option.some.inj (htime'.symm.trans htime)

theorem readLayouts?_dayFirst (text : Text) :
    readLayouts? true text = readLayouts? false text ∨
      ∃ moment other, readLayouts? true text = some moment ∧
        readLayouts? false text = some other ∧ moment.IsExchanged other := by
  simp only [readLayouts?, layouts, List.findSome?_append, if_true, Bool.false_eq_true, if_false]
  cases yearFirstLayouts.findSome? fun items => readLayout? items text with
  | some moment => simp
  | none =>
    cases hday : dayFirstLayouts.findSome? fun items => readLayout? items text with
    | none => simp
    | some moment =>
      cases hmonth : monthFirstLayouts.findSome? fun items => readLayout? items text with
      | none => simp
      | some other =>
        obtain ⟨items, hi, hread⟩ := List.exists_of_findSome?_eq_some hday
        obtain ⟨others, ho, hread'⟩ := List.exists_of_findSome?_eq_some hmonth
        refine Or.inr ⟨moment, other, by simp, by simp, ?_⟩
        exact isExchanged_of_readLayout? hi ho hread hread'

/-- **The switch only exchanges the day and the month.** With the day or the month tried first, a
value is read as the same moment or as none, or else as two moments of the same year and time
whose day and month are exchanged. -/
theorem Moment.read?_dayFirst (value : Text) :
    Moment.read? true value = Moment.read? false value ∨
      ∃ moment other, Moment.read? true value = some moment ∧
        Moment.read? false value = some other ∧ moment.IsExchanged other := by
  by_cases hblank : strip value = []
  · exact Or.inl ((read?_blank hblank true).trans (read?_blank hblank false).symm)
  cases hseconds : secondsOf? (strip value) with
  | some seconds => exact Or.inl (by simp [Moment.read?, hblank, hseconds])
  | none =>
    rw [read?_of_secondsOf? hblank hseconds, read?_of_secondsOf? hblank hseconds]
    cases readIso? (strip value) with
    | some moment =>
      rw [Option.some_or, Option.some_or]
      exact Or.inl rfl
    | none =>
      rw [Option.none_or, Option.none_or]
      exact readLayouts?_dayFirst (dropOrdinals (strip value))

end FormLetter
