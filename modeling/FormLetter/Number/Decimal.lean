import FormLetter.Number.Binary64
import FormLetter.Text.Basic

/-!
# Decimal text of binary64 numbers

* `Binary64.shortest`: the fewest digits that read back as the number, and of those the nearest.
* `Binary64.text`: these digits, positional from `0.0001` up to but not including `10 ^ 16` and with
  an exponent of at least two digits elsewhere; a whole number keeps `.0`.
* `Binary64.fixed`: a fixed number of places, the exact value rounded half to even.
-/

namespace FormLetter

namespace Binary64

/-! ## The fewest digits -/

/-- The exponent of the first digit of `num / den`, which is positive. -/
def leadingExponent (num den : Nat) : Int :=
  let estimate := ((num.log2 : Int) - den.log2) * 30103 / 100000
  let reaches (e : Int) : Bool :=
    if e < 0 then den ≤ num * Nat.pow 10 e.natAbs else den * Nat.pow 10 e.natAbs ≤ num
  if reaches (estimate + 2) then estimate + 2
  else if reaches (estimate + 1) then estimate + 1
  else if reaches estimate then estimate
  else if reaches (estimate - 1) then estimate - 1
  else estimate - 2

/-- `quarters * 2 ^ (exponent - 2)` counted in units of `10 ^ grid`, as a quotient whose denominator
does not depend on `quarters`. -/
def onGrid (exponent grid : Int) (quarters : Nat) : Nat × Nat :=
  let (num, den) := scaled quarters 1 (2 - exponent)
  if grid < 0 then (num * Nat.pow 10 grid.natAbs, den) else (num, den * Nat.pow 10 grid.natAbs)

/-- The multiple of `10 ^ grid` that reads back as `mantissa * 2 ^ exponent`, the nearest one if
there are two. The numbers that round to it lie within half a unit of the last place; below a power
of two the unit is half as large. The ends count if the mantissa is even. -/
def readBack? (mantissa : Nat) (exponent grid : Int) : Option Nat :=
  let narrow := mantissa = Nat.pow 2 52 ∧ minExponent < exponent
  let (low, _) := onGrid exponent grid (4 * mantissa - if narrow then 1 else 2)
  let (middle, unit) := onGrid exponent grid (4 * mantissa)
  let (high, _) := onGrid exponent grid (4 * mantissa + 2)
  let reads (n : Nat) : Bool :=
    if mantissa % 2 = 0 then low ≤ n * unit && n * unit ≤ high
    else low < n * unit && n * unit < high
  [roundHalfEven middle unit, middle / unit, middle / unit + 1].find? reads

/-- The fewest digits that read back as `mantissa * 2 ^ exponent`, which is positive, and the
exponent of the first of them. Seventeen digits always do. -/
def shortest (mantissa : Nat) (exponent : Int) : Text × Int :=
  let (num, den) := scaled mantissa 1 (-exponent)
  let first := leadingExponent num den
  let tries := (List.range 17).filterMap fun (more : Nat) =>
    (readBack? mantissa exponent (first - more)).map fun n => (n, first - more)
  match tries with
  | [] => (['0'], 0)
  | (n, grid) :: _ =>
    let digits := Text.ofNat n
    let kept := (digits.reverse.dropWhile (· = '0')).reverse
    (kept, grid + digits.length - 1)

/-! ## Written forms -/

/-- The sign in front of a number. -/
def signText (negative : Bool) : Text := if negative then ['-'] else []

/-- The digits with the point set for a first digit of the given exponent. -/
def positional (digits : Text) (first : Int) : Text :=
  if first < 0 then
    "0.".toList ++ List.replicate (first.natAbs - 1) '0' ++ digits
  else
    let whole := first.natAbs + 1
    let padded := digits ++ List.replicate (whole - digits.length) '0'
    let behind := padded.drop whole
    padded.take whole ++ '.' :: (if behind = [] then ['0'] else behind)

/-- The digits with a point behind the first and an exponent. -/
def scientific (digits : Text) (first : Int) : Text :=
  let head := digits.take 1
  let behind := digits.drop 1
  head ++ (if behind = [] then [] else '.' :: behind) ++ 'e' :: (if first < 0 then '-' else '+') ::
    Text.padded 2 first.natAbs

/-- The text of a number. -/
def text : Binary64 → Text
  | nan => "nan".toList
  | infinite negative => signText negative ++ "inf".toList
  | finite negative mantissa exponent =>
    signText negative ++
      if mantissa = 0 then "0.0".toList
      else
        let (digits, first) := shortest mantissa exponent
        if -4 ≤ first ∧ first < 16 then positional digits first else scientific digits first

/-- The text of a number with a fixed number of places. -/
def fixed (places : Nat) : Binary64 → Text
  | nan => "nan".toList
  | infinite negative => signText negative ++ "inf".toList
  | finite negative mantissa exponent =>
    let (num, den) := scaled mantissa 1 (-exponent)
    let digits := Text.padded (places + 1) (roundHalfEven (num * Nat.pow 10 places) den)
    let whole := digits.length - places
    signText negative ++ digits.take whole ++ '.' :: digits.drop whole

end Binary64

end FormLetter
