import MarkupTemplate.Number.Binary64
import MarkupTemplate.Text.Numeral

/-!
# Reading a decimal numeral

A numeral with a fraction or an exponent becomes a number of 64 bits in three steps. The digits are
gathered into a significand that fits 64 bits; whole digits beyond it are only counted, and
fraction digits beyond it are dropped. The significand is rounded to a floating-point number. That
is multiplied or divided by one power of ten, rounded as well. So the result may be off in its last
bits, and a numeral too great for the format has no value.

`Extended.ofText?` reads a numeral to the nearest number instead, and knows the words for what is
no finite number.

The first serves the reader of JSON text and the second the conditions on texts. No result is about
either of them.
-/

namespace MarkupTemplate

/-- A numeral, taken apart. -/
structure Numeral where
  negative : Bool
  whole : Text
  fraction : Text
  /-- The sign and the digits of the exponent, if there is one. -/
  exponent : Option (Bool × Text)
  deriving DecidableEq, Repr

/-- The least number that 64 bits do not hold. -/
def wordBound : Nat := Nat.pow 2 64

/-- Append digits to a significand for as long as it fits 64 bits. Answers the significand and the
digits that were left over. -/
def gather : Nat → Text → Nat × Text
  | n, [] => (n, [])
  | n, c :: cs =>
    let n' := n * 10 + (Text.digitValue? c).getD 0
    if n' < wordBound then gather n' cs else (n, c :: cs)

/-- The greatest exponent that a numeral may spell out. -/
def exponentBound : Nat := Nat.pow 2 31

namespace Magnitude

/-- The number of powers of ten that the format has, beginning with one. -/
def powerCount : Nat := 309

/-- A power of ten, rounded. -/
def powerOfTen (k : Nat) : Magnitude := (ofNat? (Nat.pow 10 k)).getD zero

/-- Divide by a power of ten, in steps of the greatest power that the format has. -/
def divPower (x : Magnitude) (k : Nat) : Magnitude :=
  if k < powerCount then (x.div? (powerOfTen k)).getD zero
  else if x.isZero then zero
  else divPower ((x.div? (powerOfTen (powerCount - 1))).getD zero) (k - (powerCount - 1))
termination_by k
decreasing_by simp [powerCount] at *; omega

/-- Multiply by a power of ten, positive or negative, unless the product is too great. -/
def scalePower? (x : Magnitude) (k : Int) : Option Magnitude :=
  if k < 0 then some (divPower x k.natAbs)
  else if k.natAbs < powerCount then x.mul? (powerOfTen k.natAbs)
  else if x.isZero then some zero
  else none

end Magnitude

namespace Numeral

/-- The significand and the power of ten that the digits give. -/
def gathered (n : Numeral) : Nat × Int :=
  let (whole, uncounted) := gather 0 n.whole
  let (significand, dropped) := gather whole n.fraction
  (significand, (uncounted.length : Int) - (n.fraction.length - dropped.length : Nat))

/-- The number of a numeral by the three steps, unless it is too great. -/
def float? (n : Numeral) : Option Binary64 :=
  let (significand, power) := n.gathered
  let base := (Magnitude.ofNat? significand).getD Magnitude.zero
  let magnitude := match n.exponent with
    | none => base.scalePower? power
    | some (negative, digits) =>
      let exponent := Text.toNat digits
      if exponent < exponentBound then
        base.scalePower? (if negative then power - exponent else power + exponent)
      else if negative || significand = 0 then some Magnitude.zero
      else none
  magnitude.map (⟨n.negative, ·⟩)

end Numeral

/-! ### Numbers that need not be finite -/

/-- A number of 64 bits, or one of the values that are no finite number. -/
inductive Extended where
  | undefined
  | infinite (negative : Bool)
  | finite (x : Binary64)
  deriving DecidableEq, Repr

namespace Extended

/-- The nearest number to `digits * 10 ^ exponent`, infinite if it is too great. An exponent far
beyond the format is not spelt out. -/
def nearest (negative : Bool) (digits : Nat) (exponent : Int) : Extended :=
  let length := (Nat.toDigits 10 digits).length
  if digits = 0 ∨ exponent + length < -400 then finite ⟨negative, Magnitude.zero⟩
  else if 400 < exponent + length then infinite negative
  else
    match Magnitude.round? (digits * Nat.pow 10 exponent.toNat) (Nat.pow 10 (-exponent).toNat) with
    | some magnitude => finite ⟨negative, magnitude⟩
    | none => infinite negative

/-- The value of an unsigned text: a word for infinity or for no number, in any case of letters, or
digits with an optional point and exponent. -/
def ofUnsigned? (negative : Bool) (t : Text) : Option Extended :=
  let word := t.map Char.toLower
  if word = txt "inf" ∨ word = txt "infinity" then some (infinite negative)
  else if word = txt "nan" then some undefined
  else
    let whole := t.takeWhile Text.isDigit
    let (fraction, rest) := match t.dropWhile Text.isDigit with
      | '.' :: r => (r.takeWhile Text.isDigit, r.dropWhile Text.isDigit)
      | r => ([], r)
    let digits := whole ++ fraction
    let value (exponent : Int) :=
      nearest negative (Text.toNat digits) (exponent - fraction.length)
    if digits = [] then none
    else match rest with
      | [] => some (value 0)
      | c :: r =>
        let (minus, power) := match r with
          | '-' :: p => (true, p)
          | '+' :: p => (false, p)
          | p => (false, p)
        if (c = 'e' ∨ c = 'E') ∧ power ≠ [] ∧ power.all Text.isDigit then
          some (value (if minus then -(Text.toNat power : Int) else Text.toNat power))
        else none

/-- The value of a text with an optional sign. -/
def ofText? : Text → Option Extended
  | '-' :: t => ofUnsigned? true t
  | '+' :: t => ofUnsigned? false t
  | t => ofUnsigned? false t

end Extended

end MarkupTemplate
