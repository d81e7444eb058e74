import MarkupTemplate.Fault.Cause
import MarkupTemplate.Json.Basic

/-!
# Bindings

The values of one render, each bound to the slot of its position. Compiling a template looks at
their *shapes* only: a slot in running text is a place for a list or for anything else, and the
values themselves are read when the template is rendered.

Values are bound one at a time until the pool is full, or all at once. In the latter case nothing is
counted: a template refuses values beyond the pool when it is assembled.
-/

namespace MarkupTemplate

/-- What a compiled template depends on of a value. -/
inductive Shape where
  /-- An array, spliced into the children of an element. -/
  | list
  /-- Any other value, written into running text. -/
  | scalar
  deriving DecidableEq, Repr

namespace Shape

def of : Json → Shape
  | .array _ => list
  | _ => scalar

/-- The character for the shape in the identity of a template. -/
def signature : Shape → Char
  | list => '['
  | scalar => '='

end Shape

/-- The values of one render. -/
structure Bindings where
  values : List Json

namespace Bindings

def empty : Bindings := ⟨[]⟩

def size (b : Bindings) : Nat := b.values.length

def value? (b : Bindings) (slot : Slot) : Option Json := b.values[slot.index]?

def shape? (b : Bindings) (slot : Slot) : Option Shape := (b.value? slot).map Shape.of

def shapes (b : Bindings) : List Shape := b.values.map Shape.of

/-- Bind one more value, or fail: on a full pool, and on something without a JSON form, of which
only the reason is known. -/
def push (b : Bindings) (value : Except Text Json) : Except Cause Bindings :=
  if b.size = poolSize then .error (.tooManyValues (poolSize + 1))
  else match value with
    | .ok value => .ok ⟨b.values ++ [value]⟩
    | .error detail => .error (.unserializable detail)

/-- The value of a slot, or the fault of reading it. -/
def read (b : Bindings) (slot : Slot) : Except Cause Json :=
  match b.value? slot with
  | some value => .ok value
  | none => .error (.missingValue slot b.size)

/-- The list bound to a slot, or the fault of splicing it. -/
def readList (b : Bindings) (slot : Slot) : Except Cause (List Json) :=
  match b.value? slot with
  | some (.array items) => .ok items
  | some _ => .error (.expectedList slot)
  | none => .error (.missingValue slot b.size)

theorem shape?_eq (b : Bindings) (slot : Slot) : b.shape? slot = b.shapes[slot.index]? := by
  simp [shape?, value?, shapes]

@[simp] theorem length_shapes (b : Bindings) : b.shapes.length = b.size := by
  simp [shapes, size]

end Bindings

end MarkupTemplate
