import FormLetter.Text.Blank
import FormLetter.Text.Digit

/-!
# Numerals

The digits of a number in decimal notation, plain or with leading zeros, one by one.

* `exists_digitChar`: an ASCII digit is the digit of a number below ten.
* `digitValue?_digitChar`, `asciiDigit?_digitChar`: the value of a digit.
* `ofNat_of_lt_ten`, `ofNat_of_lt_hundred`, `length_ofNat_le`: numbers of one and of two digits.
* `padded_two`, `padded_four`: numbers with leading zeros.
-/

namespace FormLetter

namespace Text

/-! ## Digits -/

/-- An ASCII digit is the digit of a number below ten. -/
theorem exists_digitChar {c : Char} (h : c.isDigit = true) : ∃ n < 10, c = Nat.digitChar n := by
  obtain ⟨hlow, hhigh⟩ := Char.isDigit_iff_toNat.1 h
  have hzero : '0'.toNat = 48 := rfl
  have hnine : '9'.toNat = 57 := rfl
  have hlt : c.toNat - 48 < 10 := by omega
  refine ⟨c.toNat - 48, hlt, ?_⟩
  rw [← Char.toNat_inj, Nat.toNat_digitChar_of_lt_ten hlt]
  omega

variable {n : Nat}

theorem digitValue?_digitChar (h : n < 10) : digitValue? (Nat.digitChar n) = some n := by
  have hn : (Nat.digitChar n).toNat = 48 + n := Nat.toNat_digitChar_of_lt_ten h
  rw [digitValue?_ascii (by omega) (by omega), hn]
  simp

theorem asciiDigit?_digitChar (h : n < 10) : asciiDigit? (Nat.digitChar n) = some n := by
  have hn : (Nat.digitChar n).toNat = 48 + n := Nat.toNat_digitChar_of_lt_ten h
  simp [asciiDigit?, Nat.isDigit_digitChar, h, hn]

theorem isDigit_digitChar (h : n < 10) : isDigit (Nat.digitChar n) = true := by
  rw [isDigit, digitValue?_digitChar h]
  rfl

/-- A blank is no digit of any script. -/
theorem isDigit_of_isBlank {c : Char} (h : isBlank c = true) : isDigit c = false := by
  rw [Bool.eq_false_iff]
  intro hdigit
  obtain ⟨m, hm⟩ := Option.isSome_iff_exists.1 hdigit
  obtain ⟨base, hfound, -⟩ := Option.map_eq_some_iff.1 hm
  have hbase : (0x20 < base ∧ base + 9 < 0x85) ∨ (0xA0 < base ∧ base + 9 < 0x1680) ∨
      (0x1680 < base ∧ base + 9 < 0x2000) ∨ 0x3000 < base :=
    (by decide : ∀ base ∈ digitZeros, (0x20 < base ∧ base + 9 < 0x85) ∨
      (0xA0 < base ∧ base + 9 < 0x1680) ∨ (0x1680 < base ∧ base + 9 < 0x2000) ∨ 0x3000 < base)
      base (List.mem_of_find?_eq_some hfound)
  have hrange := List.find?_some hfound
  simp only [Bool.and_eq_true, decide_eq_true_eq] at hrange
  simp only [isBlank, Bool.or_eq_true, Bool.and_eq_true, beq_iff_eq, decide_eq_true_eq] at h
  omega

/-! ## Numbers -/

theorem ofNat_of_lt_ten (h : n < 10) : ofNat n = [Nat.digitChar n] := Nat.toDigits_of_lt_base h

theorem ofNat_of_ten_le (h : 10 ≤ n) : ofNat n = ofNat (n / 10) ++ [Nat.digitChar (n % 10)] :=
  Nat.toDigits_of_base_le (by decide) h

theorem ofNat_of_lt_hundred (hten : 10 ≤ n) (h : n < 100) :
    ofNat n = [Nat.digitChar (n / 10), Nat.digitChar (n % 10)] := by
  rw [ofNat_of_ten_le hten, ofNat_of_lt_ten (by omega)]
  rfl

theorem length_ofNat_le (h : n < 100) : (ofNat n).length ≤ 2 := by
  by_cases hten : n < 10
  · rw [ofNat_of_lt_ten hten]
    simp
  · rw [ofNat_of_lt_hundred (by omega) h]
    simp

/-- A leading zero more stands for the quotient by ten. -/
theorem padded_succ (width n : Nat) (hwidth : 1 ≤ width) :
    padded (width + 1) n = padded width (n / 10) ++ [Nat.digitChar (n % 10)] := by
  unfold padded
  by_cases h : n < 10
  · have hzero : n / 10 = 0 := by omega
    have hmod : n % 10 = n := by omega
    obtain ⟨k, rfl⟩ : ∃ k, width = k + 1 := ⟨width - 1, by omega⟩
    rw [hzero, hmod, ofNat_of_lt_ten h, ofNat_of_lt_ten (by decide : 0 < 10)]
    simp only [List.length_singleton, Nat.add_sub_cancel]
    rw [List.replicate_succ']
    rfl
  · rw [ofNat_of_ten_le (by omega)]
    simp only [List.length_append, List.length_singleton, Nat.add_sub_add_right, List.append_assoc]

theorem padded_one (h : n < 10) : padded 1 n = [Nat.digitChar n] := by
  rw [padded, ofNat_of_lt_ten h]
  rfl

theorem padded_two (h : n < 100) :
    padded 2 n = [Nat.digitChar (n / 10), Nat.digitChar (n % 10)] := by
  rw [padded_succ 1 n (by decide), padded_one (by omega)]
  rfl

theorem padded_four (h : n < 10000) :
    padded 4 n = [Nat.digitChar (n / 1000), Nat.digitChar (n / 100 % 10),
      Nat.digitChar (n / 10 % 10), Nat.digitChar (n % 10)] := by
  rw [padded_succ 3 n (by decide), padded_succ 2 (n / 10) (by decide), padded_two (by omega)]
  simp only [Nat.div_div_eq_div_mul]
  rfl

end Text

end FormLetter
