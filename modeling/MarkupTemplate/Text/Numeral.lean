import MarkupTemplate.Text.Basic

/-!
# Decimal numerals

The text of a whole number: its decimal digits without leading zeros, behind a minus sign if it is
negative. Every place that shows a number in running text shows this form.
-/

namespace MarkupTemplate.Text

/-- The decimal digits of a natural number. -/
def ofNat (n : Nat) : Text := Nat.toDigits 10 n

/-- The decimal digits of an integer, behind a minus sign if it is negative. -/
def ofInt (n : Int) : Text := if n < 0 then '-' :: ofNat n.natAbs else ofNat n.natAbs

def digitValue? (c : Char) : Option Nat :=
  if '0'.toNat ≤ c.toNat ∧ c.toNat ≤ '9'.toNat then some (c.toNat - '0'.toNat) else none

def isDigit (c : Char) : Bool := (digitValue? c).isSome

/-- The number that a run of decimal digits stands for. Other characters count as zero. -/
def toNat (digits : Text) : Nat :=
  digits.foldl (fun n c => n * 10 + (digitValue? c).getD 0) 0

end MarkupTemplate.Text
