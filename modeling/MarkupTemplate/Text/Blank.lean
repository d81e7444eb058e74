import MarkupTemplate.Text.CodeTable

/-!
# Blank characters and trimming

A character is blank if it has the Unicode property `White_Space`: the five control characters from
TAB to CR, the space, NEXT LINE, the no-break spaces, the typographic spaces and the line and
paragraph separators. Trimming drops blank characters from the ends of a text; the general
function is `dropWhileEnd`, which also trims sequences of other things. It is `List.rdropWhile`, but
what runs does not depend on Mathlib.
-/

namespace MarkupTemplate

/-- The code points with the property `White_Space`. -/
def blankTable : CodeTable :=
  [(0x09, 0x0D), (0x20, 0x20), (0x85, 0x85), (0xA0, 0xA0), (0x1680, 0x1680), (0x2000, 0x200A),
   (0x2028, 0x2029), (0x202F, 0x202F), (0x205F, 0x205F), (0x3000, 0x3000)]

def isBlank (c : Char) : Bool := blankTable.contains c

/-- Drop the longest run of elements with the property `p` from the end of a list. -/
def dropWhileEnd {α : Type} (p : α → Bool) (l : List α) : List α := (l.reverse.dropWhile p).reverse

namespace Text

def trimStart (t : Text) : Text := t.dropWhile isBlank

def trimEnd (t : Text) : Text := dropWhileEnd isBlank t

end Text

end MarkupTemplate
