import Mathlib.Data.List.Induction
import Mathlib.Data.Nat.Digits.Defs
import MarkupTemplate.Key

/-!
# The number that a key shows

    text ──units──▶ digits ──base 31──▶ number ──the last 32 bits──▶ key

A text is hashed unit by unit, and every step wraps around. It is the same to read the units as the
digits of a number and to let that number wrap around once, at the end (`hashUnits_eq_ofInt`). So
the hash of two texts in a row comes from the hashes of the two and the number of units of the
second: `hash_append` says so, and what it means for keys. Two texts of as many units may stand for
each other anywhere in a text, and the key does not tell them apart, if and only if they have the
same key themselves. One pair of texts with the same key therefore gives any number of them.
-/

namespace MarkupTemplate.Key

/-- The number whose digits in base 31 are some units, the first unit being the highest digit. The
units are not bounded by the base. -/
def number (units : List Nat) : Nat := Nat.ofDigits 31 units.reverse

theorem number_append (us vs : List Nat) :
    number (us ++ vs) = 31 ^ vs.length * number us + number vs := by
  rw [number, List.reverse_append, Nat.ofDigits_append, List.length_reverse, Nat.add_comm]
  rfl

/-! ## Wrapping around -/

/-- **Wrapping around at every unit is wrapping around once.** -/
theorem hashUnits_eq_ofInt (units : List Nat) : hashUnits units = Int32.ofInt (number units) := by
  induction units using List.reverseRecOn with
  | nil => rfl
  | append_singleton units unit ih =>
    have hnumber : (number (units ++ [unit]) : Int) = number units * 31 + unit := by
      rw [number_append]
      simp [number, Int.mul_comm]
    rw [hashUnits, List.foldl_append, ← hashUnits, ih, hnumber, Int32.ofInt_add, Int32.ofInt_mul,
      Int32.ofInt_eq_ofNat (n := unit)]
    rfl

theorem hashUnits_append (us vs : List Nat) :
    hashUnits (us ++ vs) = Int32.ofInt (31 ^ vs.length) * hashUnits us + hashUnits vs := by
  have hnumber : (number (us ++ vs) : Int) = 31 ^ vs.length * number us + number vs := by
    exact_mod_cast number_append us vs
  rw [hashUnits_eq_ofInt, hnumber, Int32.ofInt_add, Int32.ofInt_mul, ← hashUnits_eq_ofInt,
    ← hashUnits_eq_ofInt]

/-- The hash of a sequence of units in exact arithmetic. -/
theorem toInt_hashUnits (units : List Nat) :
    (hashUnits units).toInt = (number units : Int).bmod (2 ^ 32) := by
  rw [hashUnits_eq_ofInt]
  exact Int32.toInt_ofInt

theorem toInt_hashUnits_append (us vs : List Nat) :
    (hashUnits (us ++ vs)).toInt
      = (31 ^ vs.length * (hashUnits us).toInt + (hashUnits vs).toInt).bmod (2 ^ 32) := by
  have hpow : (Int32.ofInt (31 ^ vs.length)).toInt = (31 ^ vs.length : Int).bmod (2 ^ 32) :=
    Int32.toInt_ofInt
  rw [hashUnits_append, Int32.toInt_add, Int32.toInt_mul, hpow, Int.bmod_mul_bmod,
    Int.bmod_add_bmod]

/-! ## Taking a factor away -/

/-- The base is odd, so it has an inverse among the numbers of 32 bits, and no two hashes become one
when they are multiplied by it. -/
theorem mul_base_inj {a b : Int32} : 31 * a = 31 * b ↔ a = b := by
  refine ⟨fun h => ?_, fun h => h ▸ rfl⟩
  have hinverse : (-1108378657 * 31 : Int32) = 1 := by decide
  calc a = -1108378657 * 31 * a := by rw [hinverse, Int32.one_mul]
    _ = -1108378657 * 31 * b := by rw [Int32.mul_assoc, h, ← Int32.mul_assoc]
    _ = b := by rw [hinverse, Int32.one_mul]

theorem mul_base_pow_inj (n : Nat) {a b : Int32} :
    Int32.ofInt (31 ^ n) * a = Int32.ofInt (31 ^ n) * b ↔ a = b := by
  induction n generalizing a b with
  | zero => simp
  | succ n ih =>
    rw [Int.pow_succ, Int32.ofInt_mul, Int32.mul_assoc, Int32.mul_assoc, ih]
    exact mul_base_inj

/-- In the middle of other units, as many units are told apart by the hash as well as they are
alone. -/
theorem hashUnits_between {us vs : List Nat} (h : us.length = vs.length) (xs ys : List Nat) :
    hashUnits (xs ++ us ++ ys) = hashUnits (xs ++ vs ++ ys) ↔ hashUnits us = hashUnits vs := by
  rw [hashUnits_append (xs ++ us), hashUnits_append (xs ++ vs), Int32.add_left_inj,
    mul_base_pow_inj, hashUnits_append xs us, hashUnits_append xs vs, h, Int32.add_right_inj]

/-! ## Keys -/

theorem ofText_between {s t : Text} (h : s.units.length = t.units.length) (x y : Text) :
    ofText (x ++ s ++ y) = ofText (x ++ t ++ y) ↔ ofText s = ofText t := by
  have hnil := Text.eq_nil_iff_of_units h
  by_cases hs : s = []
  · rw [hs, hnil.mp hs]
    exact iff_of_true rfl rfl
  · have ht : t ≠ [] := mt hnil.mpr hs
    have hxs : x ++ s ++ y ≠ [] := by simp [hs]
    have hxt : x ++ t ++ y ≠ [] := by simp [ht]
    rw [ofText_of_ne_nil hs, ofText_of_ne_nil ht, ofText_of_ne_nil hxs, ofText_of_ne_nil hxt,
      hash.injEq, hash.injEq]
    simp only [Text.units_append]
    exact hashUnits_between h x.units y.units

/-- **The key of a text is its number in base 31, and texts in a row have the number of both.** The
empty key is that of the empty text alone. The hash of any other text is the number of its units,
reduced to 32 bits with a sign. The hash of two texts in a row is that of the first, moved on by as
many digits as the second has units, and that of the second. Between any other texts, texts of as
many units have the same key if and only if they have it alone. -/
theorem hash_append (s t : Text) :
    (ofText s = empty ↔ s = []) ∧
    (s ≠ [] → ∃ a, ofText s = hash a ∧ a.toInt = (number s.units : Int).bmod (2 ^ 32)) ∧
    (s ≠ [] → t ≠ [] → ∃ a b c, ofText s = hash a ∧ ofText t = hash b ∧ ofText (s ++ t) = hash c ∧
      c.toInt = (31 ^ t.units.length * a.toInt + b.toInt).bmod (2 ^ 32)) ∧
    (s.units.length = t.units.length → ∀ x y,
      ofText (x ++ s ++ y) = ofText (x ++ t ++ y) ↔ ofText s = ofText t) := by
  refine ⟨ofText_eq_empty_iff, fun hs => ?_, fun hs ht => ?_, fun h x y => ofText_between h x y⟩
  · exact ⟨_, ofText_of_ne_nil hs, toInt_hashUnits s.units⟩
  · have hst : s ++ t ≠ [] := by simp [hs]
    refine ⟨_, _, _, ofText_of_ne_nil hs, ofText_of_ne_nil ht, ofText_of_ne_nil hst, ?_⟩
    rw [Text.units_append]
    exact toInt_hashUnits_append s.units t.units

/-- **A character of two units has the key of two characters**, and so they have the same key
wherever they stand. -/
theorem hash_append_pair :
    let s := txt "😀"
    let t := txt "\ud725\uffe8"
    s ≠ [] ∧ t ≠ [] ∧ s.units.length = t.units.length ∧
      (∃ a, ofText s = hash a ∧ a.toInt = (number s.units : Int).bmod (2 ^ 32)) ∧
      (∃ a b c, ofText s = hash a ∧ ofText t = hash b ∧ ofText (s ++ t) = hash c ∧
        c.toInt = (31 ^ 2 * a.toInt + b.toInt).bmod (2 ^ 32)) ∧
      ∀ x y, ofText (x ++ s ++ y) = ofText (x ++ t ++ y) := by
  intro s t
  obtain ⟨-, hnumber, happend, hbetween⟩ := hash_append s t
  have hs : s ≠ [] := by decide
  have ht : t ≠ [] := by decide
  have hlength : s.units.length = t.units.length := by decide
  have hkey : ofText s = ofText t := by decide
  exact ⟨hs, ht, hlength, hnumber hs, happend hs ht, fun x y => (hbetween hlength x y).mpr hkey⟩

end MarkupTemplate.Key
