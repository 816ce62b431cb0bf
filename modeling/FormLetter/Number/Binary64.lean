import FormLetter.Number.Rounding

/-!
# Binary64 numbers

The double-precision numbers of the binary floating-point standard, as exact values: a sign, a
mantissa of at most 53 bits and a power of two, or one of the special values. All arithmetic is
exact arithmetic on natural numbers followed by one rounding to the nearest, ties to even.

* `Binary64.ofRatio`, `Binary64.ofDecimal`: the number nearest to a quotient or a decimal.
* `Binary64.ratio?`: the exact value of a finite number.
* `Binary64.isZero`, `Binary64.isInteger`, `Binary64.truncate?`.
-/

namespace FormLetter

/-- A double-precision number. -/
inductive Binary64 where
  /-- The number `± mantissa * 2 ^ exponent`. -/
  | finite (negative : Bool) (mantissa : Nat) (exponent : Int)
  /-- An infinity. -/
  | infinite (negative : Bool)
  /-- No number. -/
  | nan
  deriving Repr, DecidableEq, Inhabited

namespace Binary64

/-- The exponent of the smallest numbers. -/
def minExponent : Int := -1074

/-- The exponent of the largest numbers. -/
def maxExponent : Int := 971

/-- `num / den * 2 ^ (-exponent)` as a quotient of natural numbers. -/
def scaled (num den : Nat) (exponent : Int) : Nat × Nat :=
  if exponent < 0 then (num * Nat.pow 2 exponent.natAbs, den)
  else (num, den * Nat.pow 2 exponent.natAbs)

/-- The exponent at which the quotient has a mantissa of 53 bits, or the least one. -/
def exponentOf (num den : Nat) : Int :=
  let estimate : Int := num.log2 - den.log2
  let (n, d) := scaled num den estimate
  max minExponent (if d ≤ n then estimate - 52 else estimate - 53)

/-- The number nearest to `± num / den`. -/
def ofRatio (negative : Bool) (num den : Nat) : Binary64 :=
  if num = 0 then finite negative 0 minExponent
  else
    let exponent := exponentOf num den
    let (n, d) := scaled num den exponent
    let mantissa := roundHalfEven n d
    let (mantissa, exponent) :=
      if mantissa = Nat.pow 2 53 then (Nat.pow 2 52, exponent + 1) else (mantissa, exponent)
    if maxExponent < exponent then infinite negative else finite negative mantissa exponent

/-- The number nearest to `± digits * 10 ^ exponent`. Far outside the range of the numbers the
answer does not depend on the digits. -/
def ofDecimal (negative : Bool) (digits : Nat) (exponent : Int) : Binary64 :=
  let size : Int := (Nat.toDigits 10 digits).length + exponent
  if digits = 0 then finite negative 0 minExponent
  else if 400 < size then infinite negative
  else if size < -400 then finite negative 0 minExponent
  else if exponent < 0 then ofRatio negative digits (Nat.pow 10 exponent.natAbs)
  else ofRatio negative (digits * Nat.pow 10 exponent.natAbs) 1

/-- The number nearest to an integer. -/
def ofInt (n : Int) : Binary64 := ofRatio (n < 0) n.natAbs 1

/-- The exact value of a finite number: its sign, numerator and denominator. -/
def ratio? : Binary64 → Option (Bool × Nat × Nat)
  | finite negative mantissa exponent =>
    if exponent < 0 then some (negative, mantissa, Nat.pow 2 exponent.natAbs)
    else some (negative, mantissa * Nat.pow 2 exponent.natAbs, 1)
  | _ => none

/-- Whether the number is zero, of either sign. -/
def isZero : Binary64 → Bool
  | finite _ mantissa _ => mantissa == 0
  | _ => false

/-- The integer in front of the point, if the number is finite. -/
def truncate? (x : Binary64) : Option Int :=
  x.ratio?.map fun (negative, num, den) =>
    let whole : Int := (num / den : Nat)
    if negative then -whole else whole

/-- Whether the number is finite and has nothing behind the point. -/
def isInteger (x : Binary64) : Bool :=
  match x.ratio? with
  | some (_, num, den) => num % den == 0
  | none => false

end Binary64

end FormLetter
