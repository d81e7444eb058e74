import MarkupTemplate.Number.Format
import MarkupTemplate.Number.Shortest

/-!
# The layout of numbers in JSON text

The format of numbers that the program runs with. A floating-point number is written with the
shortest digits that read back.
-/

namespace MarkupTemplate.Json

/-- The layout of floating-point numbers: written out from `0.00001` up to sixteen digits before
the point, and with a signed exponent elsewhere. -/
def numberLayout : DecimalLayout := ⟨-5, 15, ['+']⟩

/-- The text of a floating-point number. -/
def floatText (x : Binary64) : Text :=
  (if x.negative then ['-'] else []) ++ numberLayout.write x.magnitude.shortest

instance : NumberFormat := ⟨floatText⟩

end MarkupTemplate.Json
