import MarkupTemplate.Text.Blank

/-!
# Alphabets

Names are made of the letters and digits of any script. Which characters these are is a matter of
tables, and the tables grow with every version of Unicode, so a reader of names is handed them: an
`Alphabet` says which characters may begin an identifier (the property `XID_Start`) and which may go
on with it (`XID_Continue`).

All that is known of an alphabet is that the first of these are among the second, and that none of
them is a *delimiter*. Names are cut out of markup by white space, quotes, angle brackets, the
equals sign and the slash, and a value has its place in markup behind a dollar sign.
-/

namespace MarkupTemplate

/-- The characters besides white space that tell the parts of a tag apart: quotes, the sigil of
slots, the slash, the angle brackets and the equals sign. -/
def delimiterTable : CodeTable :=
  [(0x22, 0x22), (0x24, 0x24), (0x27, 0x27), (0x2F, 0x2F), (0x3C, 0x3E)]

/-- Whether a character ends a name wherever it stands. -/
def isDelimiter (c : Char) : Bool := isBlank c || delimiterTable.contains c

/-- The characters of identifiers. -/
class Alphabet where
  /-- Whether an identifier may begin with the character. -/
  isStart : Char → Bool
  /-- Whether an identifier may go on with the character. -/
  isContinue : Char → Bool
  /-- Whatever may begin an identifier may go on with it. -/
  isContinue_of_isStart : ∀ {c}, isStart c = true → isContinue c = true
  /-- Nothing in an identifier is a delimiter. -/
  isDelimiter_of_isContinue : ∀ {c}, isContinue c = true → isDelimiter c = false

end MarkupTemplate
