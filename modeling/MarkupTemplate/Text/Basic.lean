/-!
# Texts and byte offsets

A text is the list of its characters. Places in a text are counted in *bytes* of its UTF-8 form, so
an offset may fall inside a character, or past the end. The slicing functions answer `none` there:
`dropBytes?` and `takeBytes?` split a text at a byte offset, and `dropBytes?_byteLength_append` and
`takeBytes?_byteLength_append` say that they split exactly at the end of a leading part.
-/

namespace MarkupTemplate

/-- A text, as the list of its characters. -/
abbrev Text := List Char

/-- The characters of a string constant. -/
abbrev txt (s : String) : Text := s.toList

namespace Text

/-- The length of a text in bytes of its UTF-8 form. -/
def byteLength : Text → Nat
  | [] => 0
  | c :: cs => c.utf8Size + byteLength cs

/-- What is left of a text after its first `n` bytes, unless byte `n` is inside a character or
past the end. -/
def dropBytes? : Text → Nat → Option Text
  | cs, 0 => some cs
  | [], _ + 1 => none
  | c :: cs, n + 1 =>
    if c.utf8Size ≤ n + 1 then dropBytes? cs (n + 1 - c.utf8Size) else none

/-- The first `n` bytes of a text, unless byte `n` is inside a character or past the end. -/
def takeBytes? : Text → Nat → Option Text
  | _, 0 => some []
  | [], _ + 1 => none
  | c :: cs, n + 1 =>
    if c.utf8Size ≤ n + 1 then (takeBytes? cs (n + 1 - c.utf8Size)).map (c :: ·) else none

/-- The part of a text between two byte offsets. There is none if they are out of order, and none
if either of them is inside a character or past the end. -/
def slice? (t : Text) (start stop : Nat) : Option Text :=
  if start ≤ stop then (dropBytes? t start).bind (takeBytes? · (stop - start)) else none

/-! ### Length -/

@[simp] theorem byteLength_nil : byteLength [] = 0 := rfl

@[simp] theorem byteLength_cons (c : Char) (cs : Text) :
    byteLength (c :: cs) = c.utf8Size + byteLength cs := rfl

@[simp] theorem byteLength_append (s t : Text) :
    byteLength (s ++ t) = byteLength s + byteLength t := by
  induction s with
  | nil => simp
  | cons c s ih => simp [ih, Nat.add_assoc]

/-! ### Splitting at the end of a leading part -/

@[simp] theorem dropBytes?_zero (t : Text) : dropBytes? t 0 = some t := by
  cases t <;> rfl

@[simp] theorem takeBytes?_zero (t : Text) : takeBytes? t 0 = some [] := by
  cases t <;> rfl

theorem dropBytes?_cons_add (c : Char) (t : Text) (n : Nat) :
    dropBytes? (c :: t) (c.utf8Size + n) = dropBytes? t n := by
  obtain ⟨k, hk⟩ : ∃ k, c.utf8Size + n = k + 1 :=
    ⟨c.utf8Size + n - 1, by have := c.utf8Size_pos; omega⟩
  rw [hk, dropBytes?, if_pos (by omega)]
  congr 1
  omega

theorem takeBytes?_cons_add (c : Char) (t : Text) (n : Nat) :
    takeBytes? (c :: t) (c.utf8Size + n) = (takeBytes? t n).map (c :: ·) := by
  obtain ⟨k, hk⟩ : ∃ k, c.utf8Size + n = k + 1 :=
    ⟨c.utf8Size + n - 1, by have := c.utf8Size_pos; omega⟩
  rw [hk, takeBytes?, if_pos (by omega), ← hk, Nat.add_sub_cancel_left]

/-- Dropping the bytes of a leading part leaves the rest. -/
theorem dropBytes?_byteLength_append (s t : Text) :
    dropBytes? (s ++ t) (byteLength s) = some t := by
  induction s with
  | nil => simp
  | cons c s ih => simpa [dropBytes?_cons_add] using ih

/-- Taking the bytes of a leading part gives that part. -/
theorem takeBytes?_byteLength_append (s t : Text) :
    takeBytes? (s ++ t) (byteLength s) = some s := by
  induction s with
  | nil => simp
  | cons c s ih => simp [takeBytes?_cons_add, ih]

end Text

end MarkupTemplate
