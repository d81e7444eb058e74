import MarkupTemplate.Text.Combining
import MarkupTemplate.Text.Numeral
import MarkupTemplate.Text.Printable

/-!
# Inspection

The notation in which the parts of a structure are shown to whoever looks for a mistake. A record
is its name with its fields in braces, a wrapped value its name with the value in parentheses; lists
and sets have brackets and braces, and texts are quoted. The notation has a compact form on one
line, and an indented form with every part on a line of its own.

In a quoted text, what does not show in print is spelt out as a code point, and so is a combining
character, which would otherwise be lost on the character before it.
-/

namespace MarkupTemplate

/-- What is shown of a value. -/
inductive Inspection where
  /-- A word or a number. -/
  | word (text : Text)
  /-- A text in quotes. -/
  | quoted (text : Text)
  /-- A value under a name. -/
  | wrapped (name : Text) (value : Inspection)
  /-- Named fields. Where `more` is set, there are fields that are not shown. -/
  | record (name : Text) (fields : List (Text × Inspection)) (more : Bool)
  | list (items : List Inspection)
  | set (items : List Inspection)

namespace Inspection

def ofNat (n : Nat) : Inspection := word (Text.ofNat n)

def ofOption : Option Inspection → Inspection
  | none => word (txt "None")
  | some value => wrapped (txt "Some") value

/-! ### Quoted texts -/

/-- A code point, spelt out. -/
def codePoint (c : Char) : Text :=
  txt "\\u\x7b" ++ Nat.toDigits 16 c.toNat ++ ['\x7d']

/-- A character in a quoted text. -/
def escape (c : Char) : Text :=
  if c = '\x00' then ['\\', '0']
  else if c = '\t' then ['\\', 't']
  else if c = '\r' then ['\\', 'r']
  else if c = '\n' then ['\\', 'n']
  else if c = '"' then ['\\', '"']
  else if c = '\\' then ['\\', '\\']
  else if isCombining c || !isPrintable c then codePoint c
  else [c]

def quote (t : Text) : Text := '"' :: (t.flatMap escape ++ ['"'])

/-! ### The compact form -/

mutual
/-- A value on one line. -/
def compact : Inspection → Text
  | word t => t
  | quoted t => quote t
  | wrapped name value => name ++ '(' :: (compact value ++ [')'])
  | record name fields more =>
    name ++ txt " \x7b " ++ compactFields fields ++ (if more then txt ", .." else [])
      ++ txt " \x7d"
  | list items => '[' :: (compactItems items ++ [']'])
  | set items => '\x7b' :: (compactItems items ++ ['\x7d'])

def compactFields : List (Text × Inspection) → Text
  | [] => []
  | [(name, value)] => name ++ txt ": " ++ compact value
  | (name, value) :: rest => name ++ txt ": " ++ compact value ++ txt ", " ++ compactFields rest

def compactItems : List Inspection → Text
  | [] => []
  | [item] => compact item
  | item :: rest => compact item ++ txt ", " ++ compactItems rest
end

/-! ### The indented form -/

/-- The margin of the parts at some depth. -/
def margin (depth : Nat) : Text := List.replicate (4 * depth) ' '

mutual
/-- A value with its parts on lines of their own, at some depth. -/
def indented (depth : Nat) : Inspection → Text
  | word t => t
  | quoted t => quote t
  | wrapped name value =>
    name ++ txt "(\n" ++ margin (depth + 1) ++ indented (depth + 1) value ++ txt ",\n"
      ++ margin depth ++ [')']
  | record name fields more =>
    name ++ txt " \x7b\n" ++ indentedFields (depth + 1) fields
      ++ (if more then margin (depth + 1) ++ txt "..\n" else []) ++ margin depth ++ ['\x7d']
  | list items => '[' :: (indentedList depth items ++ [']'])
  | set items => '\x7b' :: (indentedList depth items ++ ['\x7d'])

/-- Fields at some depth, each on a line of its own. -/
def indentedFields (depth : Nat) : List (Text × Inspection) → Text
  | [] => []
  | (name, value) :: rest =>
    margin depth ++ name ++ txt ": " ++ indented depth value ++ txt ",\n"
      ++ indentedFields depth rest

/-- The inside of brackets at some depth: nothing, or items one level deeper. -/
def indentedList (depth : Nat) : List Inspection → Text
  | [] => []
  | item :: rest =>
    '\n' :: (margin (depth + 1) ++ indented (depth + 1) item ++ txt ",\n"
      ++ indentedItems (depth + 1) rest ++ margin depth)

/-- Items at some depth, each on a line of its own. -/
def indentedItems (depth : Nat) : List Inspection → Text
  | [] => []
  | item :: rest =>
    margin depth ++ indented depth item ++ txt ",\n" ++ indentedItems depth rest
end

end Inspection

end MarkupTemplate
