/-!
# Machine words

Byte offsets are natural numbers here, and a sum of two of them is exact whatever its size. A
machine holds them in words of a fixed number of bits. It differs from the exact sum in one thing: a
sum that is too large for a word either stops the program or wraps around, as the program was built.

No text that a machine holds is as long as half of its words reach. So a sum of offsets *into* a
text is always exact, and only offsets that come from elsewhere can be too large.
-/

namespace MarkupTemplate

/-- How a machine adds words. -/
structure Machine where
  bits : Nat
  /-- Words have sixteen bits at least. -/
  bits_ge : 16 ≤ bits
  /-- Whether a sum that is too large stops the program. -/
  checked : Bool
  deriving DecidableEq, Repr

namespace Machine

/-- The least number that is too large for a word. -/
def limit (machine : Machine) : Nat := Nat.pow 2 machine.bits

/-- The length that every text in memory stays below. -/
def capacity (machine : Machine) : Nat := Nat.pow 2 (machine.bits - 1)

/-- The sum of two words, unless that stops the program. -/
def add? (machine : Machine) (a b : Nat) : Option Nat :=
  if a + b < machine.limit then some (a + b)
  else if machine.checked then none
  else some ((a + b) % machine.limit)

/-- The machine with words of 64 bits on which sums wrap around. -/
def wrapping64 : Machine := ⟨64, by decide, false⟩

/-- A sum that is not too large is exact. -/
theorem add?_of_lt {machine : Machine} {a b : Nat} (h : a + b < machine.limit) :
    machine.add? a b = some (a + b) := if_pos h

/-- Half of the words reach as far as all texts, and a word holds much more than a token is long. -/
theorem capacity_add_le_limit (machine : Machine) : machine.capacity + 0x8000 ≤ machine.limit := by
  have hbits := machine.bits_ge
  have hpow : Nat.pow 2 15 ≤ machine.capacity := Nat.pow_le_pow_right (by decide) (by omega)
  have hlimit : machine.limit = machine.capacity * 2 := by
    rw [limit, ← Nat.succ_pred_eq_of_pos (by omega : 0 < machine.bits)]
    rfl
  have hfifteen : Nat.pow 2 15 = 0x8000 := rfl
  omega

end Machine

end MarkupTemplate
