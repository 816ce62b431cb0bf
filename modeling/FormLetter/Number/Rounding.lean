/-!
# Rounding a quotient

Main statement: `roundHalfEven_error` (the result is within half a unit of the quotient).
-/

namespace FormLetter

/-- The natural number nearest to `num / den`; of two that are equally near, the even one. -/
def roundHalfEven (num den : Nat) : Nat :=
  let quotient := num / den
  let rest := num % den
  if 2 * rest < den then quotient
  else if den < 2 * rest then quotient + 1
  else if quotient % 2 = 0 then quotient
  else quotient + 1

theorem roundHalfEven_error (num : Nat) {den : Nat} (pos : 0 < den) :
    2 * (roundHalfEven num den * den) ≤ 2 * num + den ∧
      2 * num ≤ 2 * (roundHalfEven num den * den) + den := by
  have h := Nat.div_add_mod num den
  have e : num / den * den = den * (num / den) := Nat.mul_comm _ _
  have s : (num / den + 1) * den = den * (num / den) + den := by
    rw [Nat.add_mul, e, Nat.one_mul]
  unfold roundHalfEven
  simp only
  split
  · rw [e]
    omega
  · split
    · rw [s]
      have := Nat.mod_lt num pos
      omega
    · split
      · rw [e]
        omega
      · rw [s]
        omega

end FormLetter
