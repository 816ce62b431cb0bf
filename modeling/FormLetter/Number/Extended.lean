import FormLetter.Number.Decimal

/-!
# Rational numbers with infinities

The exact values of numbers and of their multiples: rational numbers, two infinities, and an
undefined value for what has none, such as zero times an infinity.

* `Extended.scale`: an integer multiple.
* `Extended.exceeds`: the strict order; nothing compares with the undefined value.
* `Extended.text`: six decimals of the nearest binary64 number.

Main statement: `exceeds_finite` (on rational numbers the order is the usual one).
-/

namespace FormLetter

/-- A rational number, an infinity or no value. -/
inductive Extended where
  /-- A rational number. -/
  | finite (q : Rat)
  /-- An infinity. -/
  | infinite (negative : Bool)
  /-- No value. -/
  | undefined
  deriving Repr, DecidableEq

namespace Extended

/-- The exact value of a binary64 number. -/
def ofBinary64 : Binary64 → Extended
  | .nan => undefined
  | .infinite negative => infinite negative
  | .finite negative mantissa exponent =>
    let (num, den) := Binary64.scaled mantissa 1 (-exponent)
    finite (mkRat (if negative then -num else num) den)

/-- The binary64 number nearest to a value. -/
def round : Extended → Binary64
  | undefined => .nan
  | infinite negative => .infinite negative
  | finite q => .ofRatio (q.num < 0) q.num.natAbs q.den

/-- An integer multiple of a value. -/
def scale (n : Int) : Extended → Extended
  | undefined => undefined
  | finite q => finite (n * q)
  | infinite negative =>
    if n = 0 then undefined else infinite (if n < 0 then !negative else negative)

/-- Whether the first value is strictly greater than the second. -/
def exceeds : Extended → Extended → Bool
  | undefined, _ | _, undefined => false
  | finite p, finite q => q < p
  | infinite negative, finite _ => !negative
  | finite _, infinite negative => negative
  | infinite m, infinite n => !m && n

theorem exceeds_finite (p q : Rat) : (finite p).exceeds (finite q) = decide (q < p) := rfl

/-- Six decimals of the nearest binary64 number. -/
def text (x : Extended) : Text := x.round.fixed 6

end Extended

end FormLetter
