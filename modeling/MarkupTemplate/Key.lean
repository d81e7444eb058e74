import MarkupTemplate.Text.Numeral

/-!
# Keys

A compiled template is named by a key, a hash of 32 bits over the UTF-16 units of a text. Each unit
multiplies what came before by 31 and is added, and the result wraps around; it is read as a signed
number. The empty text has a key of its own, apart from every hash. Different texts may well have
the same key, so a key alone identifies nothing.
-/

namespace MarkupTemplate

namespace Text

/-- The UTF-16 units of a character: itself, or a pair of surrogates. -/
def unitsOf (c : Char) : List Nat :=
  if c.toNat < 0x10000 then [c.toNat]
  else [0xD800 + (c.toNat - 0x10000) / 0x400, 0xDC00 + (c.toNat - 0x10000) % 0x400]

/-- The UTF-16 units of a text. -/
def units (t : Text) : List Nat := t.flatMap unitsOf

/-- A character takes one unit, or two if it is past the first plane. -/
theorem length_unitsOf (c : Char) : (unitsOf c).length = if c.toNat < 0x10000 then 1 else 2 := by
  rw [unitsOf]
  split <;> rfl

@[simp] theorem units_append (s t : Text) : units (s ++ t) = units s ++ units t :=
  List.flatMap_append

theorem units_eq_nil_iff {t : Text} : t.units = [] ↔ t = [] := by
  cases t with
  | nil => simp [units]
  | cons c t =>
    have hc : unitsOf c ≠ [] := by
      apply List.ne_nil_of_length_pos
      rw [length_unitsOf]
      split <;> decide
    simp [units, hc]

/-- Of two texts of as many units, both are empty or none is. -/
theorem eq_nil_iff_of_units {s t : Text} (h : s.units.length = t.units.length) :
    s = [] ↔ t = [] := by
  rw [← units_eq_nil_iff, ← units_eq_nil_iff, ← List.length_eq_zero_iff, h, List.length_eq_zero_iff]

end Text

/-- The name of a compiled template. -/
inductive Key where
  /-- The key of the empty text. -/
  | empty
  /-- The hash of any other text. -/
  | hash (value : Int32)
  deriving DecidableEq, Repr

namespace Key

/-- The hash of a sequence of units. -/
def hashUnits (units : List Nat) : Int32 :=
  units.foldl (fun h unit => h * 31 + Int32.ofNat unit) 0

/-- The key of a text. -/
def ofText (t : Text) : Key := if t = [] then empty else hash (hashUnits t.units)

/-- The written form of a key: the hash in decimal, and nothing for the empty key. -/
def text : Key → Text
  | empty => []
  | hash value => Text.ofInt value.toInt

/-- The empty key comes first, and hashes follow by their signed value. -/
def le : Key → Key → Bool
  | empty, _ => true
  | hash _, empty => false
  | hash a, hash b => a.toInt ≤ b.toInt

@[simp] theorem ofText_nil : ofText [] = empty := rfl

theorem ofText_of_ne_nil {t : Text} (h : t ≠ []) : ofText t = hash (hashUnits t.units) := if_neg h

/-- Only the empty text has the empty key. -/
theorem ofText_eq_empty_iff {t : Text} : ofText t = empty ↔ t = [] := by
  simp [ofText]

end Key

end MarkupTemplate
