import MarkupTemplate.Number.Binary64
import MarkupTemplate.Text.Numeral

/-!
# The shortest decimal that reads back

A magnitude is written with the fewest significant digits that round to it. The decimals that round
to `m * 2 ^ q` lie between the midpoints to its two neighbours, ends included if `m` is even. On the
grid of decimals with `n` digits only the two neighbours of the value need to be looked at: if any
point of the grid is in that interval, one of these is. The first grid with a hit wins, and of two
hits the nearer one.
-/

namespace MarkupTemplate

/-- A positive decimal: `digits * 10 ^ exponent`. -/
structure Decimal where
  digits : Nat
  exponent : Int
  deriving DecidableEq, Repr

namespace Decimal

/-- A decimal as the quotient of two natural numbers. -/
def ratio (d : Decimal) : Nat × Nat :=
  (d.digits * Nat.pow 10 d.exponent.toNat, Nat.pow 10 (-d.exponent).toNat)

/-- The decimal without the zeros at the end of its digits; the fuel bounds their number. -/
def stripZeros : Nat → Decimal → Decimal
  | 0, d => d
  | fuel + 1, d =>
    if d.digits % 10 = 0 && d.digits != 0 then stripZeros fuel ⟨d.digits / 10, d.exponent + 1⟩
    else d

end Decimal

namespace Magnitude

/-- Quarters of the unit in the last place: the value, and the two midpoints around it. The lower
neighbour of a power of two is only half as far. -/
def quarters (x : Magnitude) : Nat × Nat × Nat :=
  let below := if x.mantissa = Nat.pow 2 52 ∧ x.exponent ≠ 0 then 1 else 2
  (4 * x.mantissa - below, 4 * x.mantissa, 4 * x.mantissa + 2)

/-- A number of quarters as a quotient of two natural numbers. -/
def quarterRatio (x : Magnitude) (quarters : Nat) : Nat × Nat :=
  (quarters * Nat.pow 2 x.exponent, Nat.pow 2 (unitExponent + 2))

/-- Whether a decimal rounds to the magnitude. -/
def admits (x : Magnitude) (d : Decimal) : Bool :=
  let (low, _, high) := x.quarters
  let (num, den) := d.ratio
  let (lowNum, unit) := x.quarterRatio low
  let (highNum, _) := x.quarterRatio high
  let value := num * unit
  if x.mantissa % 2 = 0 then lowNum * den ≤ value && value ≤ highNum * den
  else lowNum * den < value && value < highNum * den

/-- The number of digits before the point, or minus the number of zeros after it: the least `k`
with the magnitude below `10 ^ k`. -/
def scale (x : Magnitude) : Int :=
  let (num, den) := x.quarterRatio x.quarters.2.1
  let k : Int := (Nat.toDigits 10 num).length - (Nat.toDigits 10 den).length
  if num * Nat.pow 10 (-k).toNat < den * Nat.pow 10 k.toNat then k else k + 1

/-- The best decimal with `n` digits that rounds to the magnitude: the lower or the upper neighbour
on the grid, the nearer one if both do, and the even one of two equally near. -/
def onGrid? (x : Magnitude) (n : Nat) : Option Decimal :=
  let exponent := x.scale - n
  let (num, den) := x.quarterRatio x.quarters.2.1
  let num := num * Nat.pow 10 (-exponent).toNat
  let den := den * Nat.pow 10 exponent.toNat
  let lower : Decimal := ⟨num / den, exponent⟩
  let upper : Decimal := ⟨num / den + 1, exponent⟩
  let nearest : Decimal := ⟨roundQuotient num den, exponent⟩
  if x.admits nearest then some nearest
  else if x.admits lower then some lower
  else if x.admits upper then some upper
  else none

/-- The first of the grids from `n` digits on that has a decimal for the magnitude. -/
def shortestFrom (x : Magnitude) : Nat → Nat → Decimal
  | _, 0 => ⟨0, 0⟩
  | n, fuel + 1 => (x.onGrid? n).getD (shortestFrom x (n + 1) fuel)

/-- The shortest decimal that rounds to the magnitude, and the nearest one of that length.
Seventeen digits are always enough. -/
def shortest (x : Magnitude) : Decimal :=
  if x.isZero then ⟨0, 0⟩ else (shortestFrom x 1 17).stripZeros 17

end Magnitude

/-! ### Layout -/

/-- How a decimal is laid out: between which decimal exponents it is written out with a point, and
in what form the exponent is written elsewhere. -/
structure DecimalLayout where
  /-- The least exponent of the first digit that is written out. -/
  leastPlain : Int
  /-- The greatest exponent of the first digit that is written out. -/
  greatestPlain : Int
  /-- The sign of an exponent that is not negative. -/
  plus : Text

namespace DecimalLayout

/-- The digits with a point after the first `whole` of them, and at least one digit on each side. -/
def pointed (digits : Text) (whole : Int) : Text :=
  if whole ≤ 0 then '0' :: '.' :: (List.replicate (-whole).toNat '0' ++ digits)
  else
    let padded := digits ++ List.replicate (whole.toNat - digits.length) '0'
    let fraction := padded.drop whole.toNat
    padded.take whole.toNat ++ '.' :: (if fraction = [] then ['0'] else fraction)

/-- The text of a decimal. -/
def write (layout : DecimalLayout) (d : Decimal) : Text :=
  let digits := Text.ofNat d.digits
  let exponent := d.exponent + digits.length - 1
  if d.digits = 0 then txt "0.0"
  else if layout.leastPlain ≤ exponent ∧ exponent ≤ layout.greatestPlain then
    pointed digits (exponent + 1)
  else
    let mantissa := match digits with
      | [] => []
      | [c] => [c]
      | c :: rest => c :: '.' :: rest
    mantissa ++ 'e' :: ((if exponent < 0 then [] else layout.plus) ++ Text.ofInt exponent)

end DecimalLayout

end MarkupTemplate
