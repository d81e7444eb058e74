import MarkupTemplate.Number.Binary64
import MarkupTemplate.Text.Basic

/-!
# Formats of numbers

A floating-point number can be written in many ways that read back. A `NumberFormat` is one of them,
and nothing that is proved of the texts of values depends on which.
-/

namespace MarkupTemplate

/-- How floating-point numbers are written. -/
class NumberFormat where
  /-- The text of a floating-point number. -/
  text : Binary64 → Text

end MarkupTemplate
