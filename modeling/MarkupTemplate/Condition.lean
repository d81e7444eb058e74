import MarkupTemplate.Json.Basic
import MarkupTemplate.Number.Reading

/-!
# Conditions

A template is often given one value or another by a condition. What stands for a condition need not
be a Boolean: a number holds unless it is zero or no number, a text or a list unless it is empty, an
optional value if it is there and holds, and the null value never. Of the two alternatives of
`choose` only the one that is chosen runs.
-/

namespace MarkupTemplate

/-- Things that may stand for a condition. -/
class Condition (α : Type) where
  /-- Whether the condition holds. -/
  holds : α → Bool

namespace Condition

instance : Condition Bool := ⟨id⟩

instance : Condition Int := ⟨(· != 0)⟩

instance {α : Type} : Condition (List α) := ⟨(!·.isEmpty)⟩

instance {α : Type} [Condition α] : Condition (Option α) := ⟨(·.any holds)⟩

instance : Condition Binary64 := ⟨(!·.isZero)⟩

instance : Condition Extended where
  holds
    | .undefined => false
    | .infinite _ => true
    | .finite x => holds x

instance : Condition Json where
  holds
    | .null => false
    | .bool b => holds b
    | .integer n => holds n
    | .float x => holds x
    | .string t => holds t
    | .array items => holds items
    | .object fields => holds fields

end Condition

/-- Run the first action if the condition holds, and the second one if not. -/
def choose {α β : Type} {m : Type → Type} [Condition α] (condition : α) (yes no : m β) : m β :=
  if Condition.holds condition then yes else no

end MarkupTemplate
