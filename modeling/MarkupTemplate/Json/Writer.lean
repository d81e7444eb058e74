import MarkupTemplate.Json.Basic
import MarkupTemplate.Number.Format
import MarkupTemplate.Text.Numeral

/-!
# JSON text

The compact text of a value: no blanks between the parts, and in a string only the quotation mark,
the backslash and the control characters below the space are escaped. How floating-point numbers are
written is a matter of the format.

The second text of a value, `Json.inline`, is what it leaves in running text: a string stands for
itself, and a list is its items between commas, with nothing for a null item. `Json.appendTo` puts
it behind other text, item by item.
-/

namespace MarkupTemplate.Json

/-- A hexadecimal digit. -/
def hexDigit (n : Nat) : Char := Nat.digitChar n

/-- A number in four hexadecimal digits. -/
def hexWord (n : Nat) : Text :=
  [hexDigit (n / 0x1000 % 16), hexDigit (n / 0x100 % 16), hexDigit (n / 0x10 % 16),
   hexDigit (n % 16)]

/-- A character of a string. -/
def escape (c : Char) : Text :=
  if c = '"' then ['\\', '"']
  else if c = '\\' then ['\\', '\\']
  else if c = '\x08' then ['\\', 'b']
  else if c = '\x0C' then ['\\', 'f']
  else if c = '\n' then ['\\', 'n']
  else if c = '\r' then ['\\', 'r']
  else if c = '\t' then ['\\', 't']
  else if c.toNat < 0x20 then '\\' :: 'u' :: hexWord c.toNat
  else [c]

/-- The text of a string. -/
def stringText (t : Text) : Text := '"' :: (t.flatMap escape ++ ['"'])

variable [NumberFormat]

mutual
/-- The compact text of a value. -/
def write : Json → Text
  | null => txt "null"
  | bool true => txt "true"
  | bool false => txt "false"
  | integer n => Text.ofInt n
  | float x => NumberFormat.text x
  | string t => stringText t
  | array items => '[' :: (writeItems items ++ [']'])
  | object fields => '\x7b' :: (writeFields fields ++ ['\x7d'])

/-- The texts of the items of an array, between commas. -/
def writeItems : List Json → Text
  | [] => []
  | [item] => write item
  | item :: rest => write item ++ ',' :: writeItems rest

/-- The texts of the fields of an object, between commas. -/
def writeFields : List (Text × Json) → Text
  | [] => []
  | [(name, value)] => stringText name ++ ':' :: write value
  | (name, value) :: rest => stringText name ++ ':' :: (write value ++ ',' :: writeFields rest)
end

/-! ### Values in running text -/

mutual
/-- What a value leaves in running text. -/
def inline : Json → Text
  | string t => t
  | array items => inlineItems items
  | value => write value

/-- What the items of a list leave, between commas. -/
def inlineItems : List Json → Text
  | [] => []
  | [item] => inlineItem item
  | item :: rest => inlineItem item ++ ',' :: inlineItems rest

/-- What one item of a list leaves: nothing if it is null. -/
def inlineItem : Json → Text
  | null => []
  | string t => t
  | array items => inlineItems items
  | value => write value
end

mutual
/-- The text `before` with a value appended, as it stands in running text. -/
def appendTo (before : Text) : Json → Text
  | null => before ++ txt "null"
  | string t => before ++ t
  | array items => appendItemsTo before 0 items
  | value => before ++ write value

/-- The text `before` with the items of a list appended from the one at `index` on. A comma goes in
front of every item but the first of the list, and for a null item there is nothing else. -/
def appendItemsTo (before : Text) (index : Nat) : List Json → Text
  | [] => before
  | item :: rest =>
    let separated := if 0 < index then before ++ [','] else before
    appendItemsTo (if item.isNull then separated else appendTo separated item) (index + 1) rest
end

end MarkupTemplate.Json
