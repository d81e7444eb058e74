import MarkupTemplate.Text.Numeral

/-!
# Slots

A template leaves numbered slots for the values that a render supplies: slot 1 for the first value,
slot 2 for the second, and so on up to the size of the pool. In assembled markup a slot is written
as its *token*, a dollar sign and the number. A token is a written form and no more: text that
happens to look like one is text.
-/

namespace MarkupTemplate

/-- The number of slots that one template may have. -/
def poolSize : Nat := 14

/-- The character that a token begins with. -/
def sigil : Char := '$'

/-- A place for one value, numbered from 1. -/
structure Slot where
  number : Nat
  number_pos : 0 < number
  number_le : number ≤ poolSize
  deriving DecidableEq, Repr

namespace Slot

/-- The slot of a number, if the pool has one. -/
def ofNumber? (n : Nat) : Option Slot :=
  if h : 0 < n ∧ n ≤ poolSize then some ⟨n, h.1, h.2⟩ else none

/-- The slot of the value at an index, counted from 0. -/
def ofIndex? (i : Nat) : Option Slot := ofNumber? (i + 1)

/-- The index of the value that the slot stands for, counted from 0. -/
def index (s : Slot) : Nat := s.number - 1

/-- The written form of a slot. -/
def token (s : Slot) : Text := sigil :: Text.ofNat s.number

theorem ofNumber?_number (s : Slot) : ofNumber? s.number = some s := by
  simp [ofNumber?, s.number_pos, s.number_le]

theorem ofIndex?_index (s : Slot) : ofIndex? s.index = some s := by
  have h := s.number_pos
  have : s.index + 1 = s.number := by simp [index]; omega
  rw [ofIndex?, this, ofNumber?_number]

theorem ofIndex?_eq_some_iff {i : Nat} {s : Slot} : ofIndex? i = some s ↔ s.index = i := by
  constructor
  · intro h
    rw [ofIndex?, ofNumber?] at h
    split at h
    · cases h
      rfl
    · cases h
  · rintro rfl
    exact ofIndex?_index s

@[ext] theorem ext {s t : Slot} (h : s.number = t.number) : s = t := by
  cases s; cases t; simp_all

end Slot

end MarkupTemplate
