import FormLetter.Proofs.Calendar.Written
import FormLetter.Proofs.Text.Cutting
import Mathlib.Data.List.TakeDrop
import Mathlib.Data.List.TakeWhile

/-!
# Dates of the standard, written and read

What a pattern of the standard writes is read by the reader of the standard, digit by digit. What
does not start with four digits, or has a slash behind them, is no date of the standard.

* `readIso?_eq_none`, `readIso?_slash`: texts that are no dates of the standard.
* `takeDigits?_two`, `takeDigits?_four`: numbers are read as themselves.
* `standardDay`, `readIso?_standardDay`, `readIso?_standardDay_cons`: days on their own, and days in
  front of a time of day.
* `readClockFrom?_joinWith`, `readZoned?_joinWith`: times of day.
* `readIso?_render`: what a pattern of the standard writes is read.
-/

namespace FormLetter

open Text

variable {text rest : Text} {n : Nat} {c : Char}

/-! ## Texts that are none of the standard -/

/-- A date of the standard starts with four digits. -/
theorem isDigit_of_readIso? {moment : Moment} (h : Moment.readIso? text = some moment) :
    ∀ c ∈ text.take 4, c.isDigit = true := by
  simp only [Moment.readIso?, Option.bind_eq_bind, Option.bind_eq_some_iff] at h
  obtain ⟨length, -, date, hdate, -⟩ := h
  simp only [readDay?, Option.bind_eq_bind, Option.bind_eq_some_iff] at hdate
  obtain ⟨⟨year, rest⟩, hyear, -⟩ := hdate
  simp only [takeDigits?, Option.ite_none_right_eq_some, List.take_take] at hyear
  obtain ⟨⟨hlength, hdigits⟩, -⟩ := hyear
  have hfour : min 4 length = 4 := by
    rw [List.length_take] at hlength
    omega
  rw [hfour] at hdigits
  exact List.all_eq_true.1 hdigits

theorem readIso?_eq_none (hc : c ∈ text.take 4) (hdigit : isDigit c = false) :
    Moment.readIso? text = none := by
  refine Option.eq_none_iff_forall_not_mem.2 fun moment hm => ?_
  obtain ⟨n, hn, rfl⟩ := exists_digitChar (isDigit_of_readIso? hm c hc)
  rw [isDigit_digitChar hn] at hdigit
  cases hdigit

/-- A day of the standard has at least seven characters. -/
theorem le_of_dayLength? {length : Nat} (h : dayLength? text = some length) : 7 ≤ length := by
  unfold dayLength? at h
  grind

/-- Nor does the standard have a slash behind the year. -/
theorem readDay?_slash (a b c d : Char) (rest : Text) :
    readDay? (a :: b :: c :: d :: '/' :: rest) = none := by
  cases hyear : takeDigits? 4 (a :: b :: c :: d :: '/' :: rest) with
  | none => simp [readDay?, hyear]
  | some found =>
    obtain ⟨year, left⟩ := found
    obtain ⟨-, hleft⟩ := Prod.mk.inj (Option.some.inj (Option.ite_none_right_eq_some.1 hyear).2)
    have hslash : takeDigits? 2 ('/' :: rest) = none := by simp [takeDigits?]
    simp [readDay?, hyear, ← hleft, hslash]

theorem readIso?_slash (a b c d : Char) (rest : Text) :
    Moment.readIso? (a :: b :: c :: d :: '/' :: rest) = none := by
  refine Option.eq_none_iff_forall_not_mem.2 fun moment h => ?_
  simp only [Moment.readIso?, Option.mem_def, Option.bind_eq_bind, Option.bind_eq_some_iff] at h
  obtain ⟨length, hlength, date, hdate, -⟩ := h
  obtain ⟨more, rfl⟩ : ∃ more, length = more + 5 :=
    Nat.exists_eq_add_of_le' (Nat.le_trans (by decide) (le_of_dayLength? hlength))
  simp only [List.take_succ_cons, readDay?_slash] at hdate
  cases hdate

/-! ## Numbers -/

theorem takeDigits?_two (h : n < 100) (rest : Text) :
    takeDigits? 2 (Nat.digitChar (n / 10) :: Nat.digitChar (n % 10) :: rest) = some (n, rest) := by
  have hhigh : n / 10 < 10 := by omega
  have hlow : n % 10 < 10 := by omega
  have hvalue : n / 10 * 10 + n % 10 = n := by omega
  simp [takeDigits?, digitsNumber, Nat.isDigit_digitChar, Nat.toNat_digitChar_of_lt_ten, hhigh,
    hlow, hvalue]

theorem takeDigits?_four (h : n < 10000) (rest : Text) :
    takeDigits? 4 (Nat.digitChar (n / 1000) :: Nat.digitChar (n / 100 % 10) ::
      Nat.digitChar (n / 10 % 10) :: Nat.digitChar (n % 10) :: rest) = some (n, rest) := by
  have h1 : n / 1000 < 10 := by omega
  have h2 : n / 100 % 10 < 10 := by omega
  have h3 : n / 10 % 10 < 10 := by omega
  have h4 : n % 10 < 10 := by omega
  have hvalue : ((n / 1000 * 10 + n / 100 % 10) * 10 + n / 10 % 10) * 10 + n % 10 = n := by omega
  simp [takeDigits?, digitsNumber, Nat.isDigit_digitChar, Nat.toNat_digitChar_of_lt_ten, h1, h2, h3,
    h4, hvalue]

/-! ## Days -/

/-- A day as the standard writes it. -/
def standardDay (date : Date) : Text :=
  padded 4 date.year ++ '-' :: (padded 2 date.month ++ '-' :: padded 2 date.day)

variable (date : Date)

theorem length_standardDay : (standardDay date).length = 10 := by
  obtain ⟨hyear, hmonth, hday⟩ := date.lt_width
  rw [standardDay, padded_four hyear, padded_two hmonth, padded_two hday]
  rfl

theorem readDay?_standardDay : readDay? (standardDay date) = some date := by
  obtain ⟨hyear, hmonth, hday⟩ := date.lt_width
  rw [standardDay, padded_four hyear, padded_two hmonth, padded_two hday]
  simp only [readDay?, List.cons_append, List.nil_append, takeDigits?_four hyear]
  simp [takeDigits?_two hmonth, takeDigits?_two hday, afterHyphen?, after?, Date.of?_eq]

theorem dayLength?_standardDay (rest : Text) : dayLength? (standardDay date ++ rest) = some 10 := by
  obtain ⟨hyear, hmonth, hday⟩ := date.lt_width
  have hweek : ¬Nat.digitChar (date.month / 10) = 'W' := by
    intro hletter
    have hdigit := isDigit_digitChar (by omega : date.month / 10 < 10)
    rw [hletter] at hdigit
    exact absurd hdigit (by decide)
  rw [standardDay, padded_four hyear, padded_two hmonth, padded_two hday]
  simp [dayLength?, hweek]

theorem readIso?_standardDay : Moment.readIso? (standardDay date) = some { date } := by
  have hlength := length_standardDay date
  have hday := dayLength?_standardDay date []
  rw [List.append_nil] at hday
  rw [Moment.readIso?, hday]
  simp [List.take_of_length_le, List.drop_of_length_le, hlength, readDay?_standardDay]

/-- Behind the day and one more character stands a time of day. -/
theorem readIso?_standardDay_cons (c : Char) {time : TimeOfDay}
    (h : readZoned? rest = some (time, none)) :
    Moment.readIso? (standardDay date ++ c :: rest) = some { date, time } := by
  have hlength := length_standardDay date
  rw [Moment.readIso?, dayLength?_standardDay]
  simp [List.take_left' hlength, List.drop_left' hlength, readDay?_standardDay, h]

/-! ## Times of day -/

variable {done fields : List Nat} {remaining : Nat} {colons : Option Bool}

theorem readClockFrom?_last (hn : n < 100) :
    readClockFrom? done colons (remaining + 1) (padded 2 n) = some { fields := done ++ [n] } := by
  simp [readClockFrom?, padded_two hn, takeDigits?_two hn]

theorem readClockFrom?_colon (hn : n < 100) (hcolons : colons.getD true = true)
    (hremaining : remaining ≠ 0) (hrest : rest ≠ []) :
    readClockFrom? done colons (remaining + 1) (padded 2 n ++ ':' :: rest) =
      readClockFrom? (done ++ [n]) (some true) remaining rest := by
  obtain ⟨c, rest, rfl⟩ := List.exists_cons_of_ne_nil hrest
  simp [readClockFrom?, padded_two hn, takeDigits?_two hn, hcolons, hremaining]

/-- Numbers of two digits with colons between them are read as the fields of a clock. -/
theorem readClockFrom?_joinWith (hne : fields ≠ []) (hremaining : fields.length ≤ remaining)
    (h : ∀ n ∈ fields, n < 100) (done : List Nat) (hcolons : colons.getD true = true) :
    readClockFrom? done colons remaining (joinWith [':'] (fields.map (padded 2))) =
      some { fields := done ++ fields } := by
  induction fields generalizing done remaining colons with
  | nil => exact absurd rfl hne
  | cons n fields ih =>
    obtain ⟨hn, hfields⟩ := List.forall_mem_cons.1 h
    obtain ⟨left, rfl⟩ : ∃ left, remaining = left + 1 :=
      Nat.exists_eq_succ_of_ne_zero (Nat.ne_zero_of_lt hremaining)
    cases fields with
    | nil => exact readClockFrom?_last hn
    | cons m fields =>
      have hleft : (m :: fields).length ≤ left := Nat.le_of_succ_le_succ hremaining
      have hrest : joinWith [':'] ((m :: fields).map (padded 2)) ≠ [] := by
        have hm := (isNumeral_padded 2 m).1
        cases fields <;> simp [joinWith, hm]
      rw [List.map_cons, joinWith_cons _ _ (by simp), List.append_assoc, List.singleton_append,
        readClockFrom?_colon hn hcolons (Nat.ne_zero_of_lt hleft) hrest,
        ih (by simp) hleft hfields (done ++ [n]) rfl, List.append_assoc, List.singleton_append]

/-- A time of day in numbers of two digits is read without an offset. -/
theorem readZoned?_joinWith (hne : fields ≠ []) (hlength : fields.length ≤ 3)
    (h : ∀ n ∈ fields, n < 100) {time : TimeOfDay}
    (htime : TimeOfDay.of? (fields[0]?.getD 0) (fields[1]?.getD 0) (fields[2]?.getD 0) 0 =
      some time) :
    readZoned? (joinWith [':'] (fields.map (padded 2))) = some (time, none) := by
  have hsign : ∀ c ∈ joinWith [':'] (fields.map (padded 2)),
      (!(c = '+' || c = '-' || c = 'Z')) = true := by
    have hmark : ∀ c ∈ ['+', '-', 'Z'], isDigit c = false ∧ c ∉ [':'] :=
      forall_mem_of_all (by decide)
    intro c hc
    have hnone : c ∉ ['+', '-', 'Z'] := by
      intro hsign
      obtain ⟨hdigit, hcolon⟩ := hmark c hsign
      rcases mem_joinWith hc with hc | ⟨piece, hpiece, hc⟩
      · exact hcolon hc
      · obtain ⟨n, -, rfl⟩ := List.mem_map.1 hpiece
        rw [(isNumeral_padded 2 n).2 c hc] at hdigit
        cases hdigit
    simpa [and_assoc] using hnone
  have hclock :
      readClockFrom? [] none 3 (joinWith [':'] (fields.map (padded 2))) = some { fields } :=
    readClockFrom?_joinWith hne hlength h [] rfl
  rw [readZoned?]
  simp only [List.span_eq_takeWhile_dropWhile, List.takeWhile_eq_self_iff.2 hsign,
    List.dropWhile_eq_nil_iff.2 hsign, readClock?, hclock]
  simp [htime]

/-! ## Written dates -/

/-- The patterns of the standard. -/
def standardPatterns : List String := ["Y-m-d", "Y-m-d H:i", "Y-m-d H:i:s"]

/-- What a pattern of the standard writes is read, up to what it does not write. -/
theorem readIso?_render (moment : Moment) {pattern : String} (h : pattern ∈ standardPatterns) :
    Moment.readIso? (moment.render pattern.toList) = some (moment.keeping pattern.toList) := by
  obtain ⟨hhour, hminute, hsecond, -⟩ := moment.time.valid
  simp only [standardPatterns, List.mem_cons, List.not_mem_nil, or_false] at h
  rcases h with rfl | rfl | rfl
  · have htext : moment.render "Y-m-d".toList = standardDay moment.date := by
      simp [Moment.render, renderLetter?, standardDay]
    rw [htext, readIso?_standardDay]
    rfl
  · have htext : moment.render "Y-m-d H:i".toList = standardDay moment.date ++ ' ' ::
        joinWith [':'] ([moment.time.hour, moment.time.minute].map (padded 2)) := by
      simp [Moment.render, renderLetter?, standardDay, joinWith]
    have htwo : ∀ n ∈ [moment.time.hour, moment.time.minute], n < 100 := by simp; omega
    rw [htext]
    exact readIso?_standardDay_cons moment.date ' ' (readZoned?_joinWith (by simp) (by simp) htwo
      (moment.keeping "Y-m-d H:i".toList).time.of?_eq)
  · have htext : moment.render "Y-m-d H:i:s".toList = standardDay moment.date ++ ' ' :: joinWith [':']
        ([moment.time.hour, moment.time.minute, moment.time.second].map (padded 2)) := by
      simp [Moment.render, renderLetter?, standardDay, joinWith]
    have htwo : ∀ n ∈ [moment.time.hour, moment.time.minute, moment.time.second], n < 100 := by
      simp
      omega
    rw [htext]
    exact readIso?_standardDay_cons moment.date ' ' (readZoned?_joinWith (by simp) (by simp) htwo
      (moment.keeping "Y-m-d H:i:s".toList).time.of?_eq)

end FormLetter
