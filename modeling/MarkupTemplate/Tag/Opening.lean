import MarkupTemplate.Tag.Name
import MarkupTemplate.Tag.Word

/-!
# Opening tags

An opening tag gives an element its name, its attributes and its key. The first word is the name.
Every other word is an attribute, split at its first `=`; without one the value is empty. Names are
fixed text, and values may read slots. An attribute of the name `key` that reads a slot is not an
attribute but the key of the element.

A slash at the end of a tag closes the element at once if it stands behind the tag name, white space
or a quote. Behind anything else it is the end of a value.
-/

namespace MarkupTemplate

/-- What an opening tag says. -/
structure OpeningTag where
  name : Text
  attributes : Attributes Interpolation
  key : Option Interpolation
  deriving DecidableEq, Repr

namespace OpeningTag

/-- The attribute that is the key of the element if it reads a slot. -/
def keyAttribute : Text := txt "key"

/-- A tag with a name and nothing else. -/
def bare (name : Text) : OpeningTag := ⟨name, .empty, none⟩

/-- The tag with the value of an attribute, or of the key. -/
def withValue (tag : OpeningTag) (name : Text) (value : Interpolation) : OpeningTag :=
  if name = keyAttribute ∧ value.isStatic = false then { tag with key := some value }
  else { tag with attributes := tag.attributes.insert name value }

section

variable [Alphabet]

/-- The tag with the attribute of a word. -/
def readWord (tag : OpeningTag) (word : Word) : Except Misreading OpeningTag :=
  let name := Markup.plain? (word.symbols.takeWhile (!·.isChar '='))
  let value := (word.symbols.dropWhile (!·.isChar '=')).drop 1
  match name.filter isAttributeName with
  | some name => .ok (tag.withValue name (.ofMarkup value))
  | none => .error ⟨.invalidName .ofAttribute, word.span⟩

/-- The tag that some words make, for a tag whose content begins at a byte offset. -/
def ofWords (start : Nat) : List Word → Except Misreading OpeningTag
  | [] => .error ⟨.invalidName .ofTag, ⟨start, start⟩⟩
  | word :: rest =>
    match (Markup.plain? word.symbols).filter isTagName with
    | some name => rest.foldlM readWord (bare name)
    | none => .error ⟨.invalidName .ofTag, word.span⟩

/-- The tag of a content that begins at a byte offset. -/
def ofContent (start : Nat) (content : Markup) : Except Misreading OpeningTag := do
  ofWords start (← Word.split start content)

end

/-! ### The slash and the space around the content -/

/-- Whether a symbol is white space. -/
def isBlankSymbol (x : Symbol) : Bool := x.isCharWith isBlank

/-- Take the slash that closes an element at once off the end of a trimmed content, and say whether
there was one. -/
def splitSlash (content : Markup) : Markup × Bool :=
  let rest := content.dropLast
  if content.getLast? = some (.char '/') ∧
      (rest.getLast?.any (·.isCharWith fun c => isBlank c || Word.isQuote c) ∨
        ¬ rest.any isBlankSymbol) then
    (dropWhileEnd isBlankSymbol rest, true)
  else (content, false)

/-- Read the whole content of a tag that takes up a span. A content without white space is a tag
name and nothing else. Says as well whether the tag closes its element at once. -/
def read [Alphabet] (span : Span) (content : Markup) : Except Misreading (OpeningTag × Bool) := do
  let leading : Markup := content.takeWhile isBlankSymbol
  let (content, closed) := splitSlash (dropWhileEnd isBlankSymbol (content.dropWhile isBlankSymbol))
  if content.any isBlankSymbol then
    return (← ofContent (span.start + 1 + leading.byteLength) content, closed)
  else match (Markup.plain? content).filter isTagName with
    | some name => return (bare name, closed)
    | none => throw ⟨.invalidTag, span⟩

end OpeningTag

end MarkupTemplate
