/-!
# Binary numbers of 64 bits

A floating-point number has a sign, a mantissa of at most 53 bits and an exponent, and it is worth
the mantissa times a power of two from `2 ^ -1074` up. Its arithmetic is exact arithmetic followed
by one rounding to the nearest number of the format, to the even mantissa at a tie, so everything
rests on `Magnitude.round?`.
-/

namespace MarkupTemplate

/-- The quotient of two natural numbers, rounded to the nearest number, and to the even one of two
equally near. -/
def roundQuotient (num den : Nat) : Nat :=
  let q := num / den
  let r := num % den
  if 2 * r < den then q else if den < 2 * r then q + 1 else q + q % 2

/-- The size of a number: `mantissa * 2 ^ (exponent - 1074)`. The mantissa is below `2 ^ 53`, and
at least `2 ^ 52` unless the exponent is zero. -/
structure Magnitude where
  mantissa : Nat
  exponent : Nat
  deriving DecidableEq, Repr

namespace Magnitude

/-- The exponent of the unit: a magnitude of exponent zero is a multiple of `2 ^ -1074`. -/
def unitExponent : Nat := 1074

/-- The greatest exponent of the format. -/
def maxExponent : Nat := 2045

def zero : Magnitude := ⟨0, 0⟩

def isZero (x : Magnitude) : Bool := x.mantissa = 0

/-- The magnitude nearest to `num / den`, unless it is beyond the greatest one. -/
def round? (num den : Nat) : Option Magnitude :=
  let scaled := num * Nat.pow 2 unitExponent
  let exponent := (scaled / den).log2 - 52
  let mantissa := roundQuotient scaled (den * Nat.pow 2 exponent)
  let result : Magnitude :=
    if mantissa = Nat.pow 2 53 then ⟨Nat.pow 2 52, exponent + 1⟩ else ⟨mantissa, exponent⟩
  if result.exponent ≤ maxExponent then some result else none

/-- The magnitude nearest to a natural number. -/
def ofNat? (n : Nat) : Option Magnitude := round? n 1

/-- The product, rounded. -/
def mul? (x y : Magnitude) : Option Magnitude :=
  round? (x.mantissa * y.mantissa * Nat.pow 2 (x.exponent + y.exponent))
    (Nat.pow 2 (2 * unitExponent))

/-- The quotient, rounded. There is none by zero. -/
def div? (x y : Magnitude) : Option Magnitude :=
  if y.isZero then none
  else round? (x.mantissa * Nat.pow 2 x.exponent) (y.mantissa * Nat.pow 2 y.exponent)

end Magnitude

/-- A finite number of 64 bits. Zero has a sign. -/
structure Binary64 where
  negative : Bool
  magnitude : Magnitude
  deriving DecidableEq, Repr

namespace Binary64

def isZero (x : Binary64) : Bool := x.magnitude.isZero

end Binary64

end MarkupTemplate
