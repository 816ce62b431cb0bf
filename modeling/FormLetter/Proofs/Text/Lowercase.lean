import FormLetter.Text.Blank
import FormLetter.Text.Casing
import Mathlib.Data.Nat.ModEq

/-!
# Lower case is final

A text in lower case is its own lower-case form, and a text that is not blank stays so. Both come
down to the table of the lower-case mappings: what a run of the table gives is held by no run, and
is no blank.

* `CaseRun.isClearOf`, `CaseRun.isPlain`: what is checked of the table.
* `IsLower`: a character that stays as it is.
* `lowerChar_cases`: the lower-case form of a character.
* `lower_lower`, `isAllBlank_lower`.
-/

namespace FormLetter

namespace Text

/-! ## The table -/

namespace CaseRun

/-- The least code point that a run gives. -/
def firstImage (run : CaseRun) : Nat := (run.first + run.shift).toNat

/-- The greatest code point that a run gives. -/
def lastImage (run : CaseRun) : Nat := (run.last + run.shift).toNat

/-- Whether nothing that a run gives is held by a run of a sorted table. Such a run ends in front of
it, begins behind it, or leaves gaps that it fits into. -/
def isClearOf (run : CaseRun) : List CaseRun → Bool
  | [] => true
  | other :: others =>
    if other.last < run.firstImage then isClearOf run others
    else if run.lastImage < other.first then true
    else
      (run.stride % other.stride == 0 || run.first == run.last) &&
        run.firstImage % other.stride != other.first % other.stride && isClearOf run others

/-- Whether nothing that a run gives lies between two code points. -/
def avoids (run : CaseRun) (range : Nat × Nat) : Bool :=
  run.lastImage < range.1 || range.2 < run.firstImage

end CaseRun

/-- The code points of the blanks. -/
def blankRanges : List (Nat × Nat) :=
  [(0x09, 0x0D), (0x1C, 0x20), (0x85, 0x85), (0xA0, 0xA0), (0x1680, 0x1680), (0x2000, 0x200A),
    (0x2028, 0x2029), (0x202F, 0x202F), (0x205F, 0x205F), (0x3000, 0x3000)]

/-- Whether a run gives characters that are no blanks, and neither a capital sigma nor a capital I
with a dot. -/
def CaseRun.isPlain (run : CaseRun) : Bool :=
  0 ≤ run.first + run.shift && run.lastImage < 0x110000 && run.avoids (0xD800, 0xDFFF) &&
    run.avoids (0x130, 0x130) && run.avoids (0x3A3, 0x3A3) && blankRanges.all run.avoids

theorem isClearOf_lowerRuns {run : CaseRun} (h : run ∈ lowerRuns) :
    run.isClearOf lowerRuns = true := by
  have hall : (lowerRuns.all fun run => run.isClearOf lowerRuns) = true := by decide +kernel
  exact List.all_eq_true.1 hall run h

theorem isPlain_lowerRuns {run : CaseRun} (h : run ∈ lowerRuns) : run.isPlain = true := by
  have hall : lowerRuns.all CaseRun.isPlain = true := by decide +kernel
  exact List.all_eq_true.1 hall run h

/-! ## Runs -/

section

variable {run other : CaseRun} {runs : List CaseRun} {n : Nat}

theorem CaseRun.holds_iff :
    run.holds n = true ↔ run.first ≤ n ∧ n ≤ run.last ∧ (n - run.first) % run.stride = 0 := by
  simp [CaseRun.holds, and_assoc]

/-- What a run gives lies between its two bounds. -/
theorem CaseRun.image_mem (h : run.holds n = true) :
    run.firstImage ≤ (n + run.shift).toNat ∧ (n + run.shift).toNat ≤ run.lastImage := by
  obtain ⟨hfirst, hlast, -⟩ := CaseRun.holds_iff.1 h
  unfold CaseRun.firstImage CaseRun.lastImage
  omega

theorem CaseRun.lt_or_lt_of_avoids {range : Nat × Nat} (havoids : run.avoids range = true)
    (h : run.holds n = true) :
    (n + run.shift).toNat < range.1 ∨ range.2 < (n + run.shift).toNat := by
  obtain ⟨hfirst, hlast⟩ := CaseRun.image_mem h
  simp only [CaseRun.avoids, Bool.or_eq_true, decide_eq_true_eq] at havoids
  omega

/-- What a run gives has the remainder of the first one, if it goes on in whole steps. -/
theorem CaseRun.image_mod (hpos : 0 ≤ run.first + run.shift) (h : run.holds n = true) {stride : Nat}
    (hstride : run.stride % stride = 0 ∨ run.first = run.last) :
    (n + run.shift).toNat % stride = run.firstImage % stride := by
  obtain ⟨hfirst, hlast, hmod⟩ := CaseRun.holds_iff.1 h
  obtain ⟨k, hk⟩ := Nat.dvd_of_mod_eq_zero hmod
  rcases hstride with hstride | hsingle
  · obtain ⟨m, hm⟩ := Nat.dvd_of_mod_eq_zero hstride
    have himage : (n + run.shift).toNat = run.firstImage + stride * (m * k) := by
      rw [← Nat.mul_assoc, ← hm, ← hk]
      unfold CaseRun.firstImage
      omega
    rw [himage, Nat.add_mul_mod_self_left]
  · have hn : n = run.first := by omega
    rw [hn]
    rfl

theorem shifted_cons_of_not_holds (hfirst : other.first ≤ n) (hholds : other.holds n = false) :
    shifted (other :: runs) n = shifted runs n := by
  simp [shifted, hfirst, hholds]

theorem shifted_cons_of_lt (hfirst : n < other.first) : shifted (other :: runs) n = n := by
  simp [shifted, Nat.not_le.2 hfirst]

/-- What a run gives is mapped to itself by a table that the run is clear of. -/
theorem shifted_image (hpos : 0 ≤ run.first + run.shift) (hclear : run.isClearOf runs = true)
    (h : run.holds n = true) : shifted runs (n + run.shift).toNat = (n + run.shift).toNat := by
  obtain ⟨hfirst, hlast⟩ := CaseRun.image_mem h
  induction runs with
  | nil => rfl
  | cons other others ih =>
    by_cases hother : (n + run.shift).toNat < other.first
    · exact shifted_cons_of_lt hother
    · have hother := Nat.not_lt.1 hother
      rw [CaseRun.isClearOf] at hclear
      split at hclear
      · rename_i hbelow
        rw [shifted_cons_of_not_holds hother, ih hclear]
        refine Bool.eq_false_iff.2 fun hholds => ?_
        have hupper := (CaseRun.holds_iff.1 hholds).2.1
        omega
      · rw [if_neg (by omega)] at hclear
        simp only [Bool.and_eq_true, Bool.or_eq_true, beq_iff_eq, bne_iff_ne] at hclear
        obtain ⟨⟨hstride, hgap⟩, hclear⟩ := hclear
        rw [shifted_cons_of_not_holds hother, ih hclear]
        refine Bool.eq_false_iff.2 fun hholds => hgap ?_
        have hmod := (CaseRun.holds_iff.1 hholds).2.2
        rw [← CaseRun.image_mod hpos h hstride]
        exact ((Nat.modEq_iff_dvd' hother).2 (Nat.dvd_of_mod_eq_zero hmod)).symm

theorem shifted_cases (runs : List CaseRun) (n : Nat) :
    shifted runs n = n ∨
      ∃ run ∈ runs, run.holds n = true ∧ shifted runs n = (n + run.shift).toNat := by
  unfold shifted
  cases hfind : (runs.takeWhile fun run => run.first ≤ n).find? (·.holds n) with
  | none => exact Or.inl rfl
  | some run =>
    have hholds := (List.find?_eq_some_iff_append.1 hfind).1
    exact Or.inr ⟨run, (List.takeWhile_prefix _).subset (List.mem_of_find?_eq_some hfind), hholds,
      rfl⟩

end

/-! ## Characters -/

/-- A character that stays as it is in lower case. -/
structure IsLower (c : Char) : Prop where
  /-- It is no capital sigma, whose form depends on its place. -/
  ne_capitalSigma : c ≠ capitalSigma
  /-- It is its own lower-case form. -/
  lowerChar_eq : lowerChar c = [c]

/-- The table holds the ASCII letters too. -/
theorem lowerChar_eq_mapped (c : Char) : lowerChar c = mapped lowerExpansions lowerRuns c := by
  by_cases h : c.toNat < 0x80
  · have hascii : ∀ n < 0x80,
        [(Char.ofNat n).toLower] = mapped lowerExpansions lowerRuns (Char.ofNat n) := by
      decide +kernel
    rw [lowerChar_ascii h]
    simpa using hascii c.toNat h
  · rw [lowerChar, if_neg h]

theorem isBlank_eq_false {c : Char}
    (h : ∀ range ∈ blankRanges, c.toNat < range.1 ∨ range.2 < c.toNat) : isBlank c = false := by
  simp only [blankRanges, List.forall_mem_cons] at h
  simp only [isBlank, Bool.or_eq_false_iff, Bool.and_eq_false_iff, beq_eq_false_iff_ne,
    decide_eq_false_iff_not]
  omega

/-- The lower-case form of a character without expansion. -/
theorem lowerChar_of_ne {c : Char} (h : c.toNat ≠ 0x130) :
    lowerChar c = [Char.ofNat (shifted lowerRuns c.toNat)] := by
  have hlookup : lowerExpansions.lookup c.toNat = none := by
    simp [lowerExpansions, List.lookup_cons, beq_eq_false_iff_ne.2 h]
  rw [lowerChar_eq_mapped, mapped, hlookup]

/-- What a run gives stays as it is in lower case, and is no blank. -/
theorem isLower_image {run : CaseRun} {n : Nat} (hrun : run ∈ lowerRuns) (h : run.holds n = true) :
    IsLower (Char.ofNat (n + run.shift).toNat) ∧
      isBlank (Char.ofNat (n + run.shift).toNat) = false := by
  have hplain := isPlain_lowerRuns hrun
  simp only [CaseRun.isPlain, Bool.and_eq_true, decide_eq_true_eq, List.all_eq_true] at hplain
  obtain ⟨⟨⟨⟨⟨hpos, hlast⟩, hsurrogate⟩, hdotted⟩, hsigma⟩, hblank⟩ := hplain
  have hsurrogate := CaseRun.lt_or_lt_of_avoids hsurrogate h
  have hdotted := CaseRun.lt_or_lt_of_avoids hdotted h
  have hsigma := CaseRun.lt_or_lt_of_avoids hsigma h
  have hbound := (CaseRun.image_mem h).2
  have hshifted := shifted_image hpos (isClearOf_lowerRuns hrun) h
  have hchar : (Char.ofNat (n + run.shift).toNat).toNat = (n + run.shift).toNat := by
    have hvalid : (n + run.shift).toNat.isValidChar := by
      unfold Nat.isValidChar
      omega
    rw [Char.ofNat, dif_pos hvalid]
    rfl
  refine ⟨⟨fun heq => ?_, ?_⟩, isBlank_eq_false fun range hrange => ?_⟩
  · rw [heq] at hchar
    have hcode : capitalSigma.toNat = 0x3A3 := rfl
    omega
  · rw [lowerChar_of_ne (by omega), hchar, hshifted]
  · rw [hchar]
    exact CaseRun.lt_or_lt_of_avoids (hblank range hrange) h

/-- The lower-case form of a character: the character itself, or characters that stay as they are
and are no blanks. -/
theorem lowerChar_cases (c : Char) :
    lowerChar c = [c] ∨
      lowerChar c ≠ [] ∧ ∀ d ∈ lowerChar c, IsLower d ∧ isBlank d = false := by
  by_cases hdotted : c.toNat = 0x130
  · have hform : lowerChar c = ['i', Char.ofNat 0x307] := by
      rw [lowerChar_eq_mapped, mapped, hdotted]
      rfl
    rw [hform]
    refine Or.inr ⟨List.cons_ne_nil _ _, fun d hd => ?_⟩
    rcases List.mem_cons.1 hd with rfl | hd
    · exact ⟨⟨by decide, by decide +kernel⟩, by decide⟩
    · rw [List.mem_singleton.1 hd]
      exact ⟨⟨by decide, by decide +kernel⟩, by decide⟩
  · rw [lowerChar_of_ne hdotted]
    rcases shifted_cases lowerRuns c.toNat with hself | ⟨run, hrun, hholds, heq⟩
    · exact Or.inl (by rw [hself, Char.ofNat_toNat])
    · rw [heq]
      refine Or.inr ⟨List.cons_ne_nil _ _, fun d hd => ?_⟩
      rw [List.mem_singleton.1 hd]
      exact isLower_image hrun hholds

/-! ## Texts -/

/-- Both forms of a small sigma stay as they are, and neither is a blank. -/
theorem isLower_lowerSigma (before following : Text) :
    IsLower (lowerSigma before following) ∧ isBlank (lowerSigma before following) = false := by
  unfold lowerSigma
  split
  · exact ⟨⟨by decide, by decide +kernel⟩, by decide⟩
  · exact ⟨⟨by decide, by decide +kernel⟩, by decide⟩

theorem isLower_of_mem_lowerChar {c d : Char} (h : c ≠ capitalSigma) (hd : d ∈ lowerChar c) :
    IsLower d := by
  rcases lowerChar_cases c with hself | ⟨-, hall⟩
  · rw [hself, List.mem_singleton] at hd
    rw [hd]
    exact ⟨h, hself⟩
  · exact (hall d hd).1

theorem isLower_of_mem_lowerAfter {before text : Text} {c : Char}
    (h : c ∈ lowerAfter before text) : IsLower c := by
  induction text generalizing before with
  | nil => exact absurd h List.not_mem_nil
  | cons d rest ih =>
    rw [lowerAfter] at h
    rcases List.mem_append.1 h with hmem | hmem
    · split at hmem
      · rw [List.mem_singleton.1 hmem]
        exact (isLower_lowerSigma before rest).1
      · rename_i hsigma
        exact isLower_of_mem_lowerChar hsigma hmem
    · exact ih hmem

/-- A text of such characters stays as it is, whatever is in front of it. -/
theorem lowerAfter_eq_self {text : Text} (h : ∀ c ∈ text, IsLower c) (before : Text) :
    lowerAfter before text = text := by
  induction text generalizing before with
  | nil => rfl
  | cons c rest ih =>
    obtain ⟨hc, hrest⟩ := List.forall_mem_cons.1 h
    rw [lowerAfter, if_neg hc.ne_capitalSigma, hc.lowerChar_eq, ih hrest]
    rfl

/-- A text in lower case is its own lower-case form. -/
theorem lower_lower (text : Text) : lower (lower text) = lower text :=
  lowerAfter_eq_self (fun _ => isLower_of_mem_lowerAfter) []

theorem isBlank_of_lowerChar {c : Char} (h : ∀ d ∈ lowerChar c, isBlank d = true) :
    isBlank c = true := by
  rcases lowerChar_cases c with hself | ⟨hne, hall⟩
  · exact h c (by rw [hself]; exact List.mem_singleton.2 rfl)
  · obtain ⟨d, hd⟩ := List.exists_mem_of_ne_nil _ hne
    exact absurd (h d hd) (Bool.eq_false_iff.1 (hall d hd).2)

theorem isAllBlank_of_lowerAfter {before text : Text}
    (h : isAllBlank (lowerAfter before text) = true) : isAllBlank text = true := by
  induction text generalizing before with
  | nil => rfl
  | cons c rest ih =>
    rw [lowerAfter, isAllBlank, List.all_append, Bool.and_eq_true] at h
    obtain ⟨hc, hrest⟩ := h
    rw [isAllBlank, List.all_cons, Bool.and_eq_true]
    refine ⟨?_, ih hrest⟩
    split at hc
    · have hsigma := (isLower_lowerSigma before rest).2
      simp [hsigma] at hc
    · exact isBlank_of_lowerChar (List.all_eq_true.1 hc)

/-- A text that is not blank has a lower-case form that is not blank. -/
theorem isAllBlank_lower {text : Text} (h : isAllBlank text = false) :
    isAllBlank (lower text) = false := by
  refine Bool.eq_false_iff.2 fun hblank => ?_
  exact Bool.eq_false_iff.1 h (isAllBlank_of_lowerAfter hblank)

end Text

end FormLetter
