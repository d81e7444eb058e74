import MarkupTemplate.Tag.Opening

/-!
# Opening tags in marked text

    content, offset, sites ──Splitter──▶ parts ──readPart──▶ tag

A tag is read where it stands in a marked text. Its content is split into *parts*, which are its
words as texts of their own. A character is looked up in the sites before it is looked at: if a
token begins there then the part takes over the token as it is, and the rest of the token is passed
over. So no token ends a word, and text that was typed is never taken for one.

The sites are counted anew twice on the way. A part has lost its quotes and what stands before it,
and its sites are offsets into what is left; the value of an attribute begins behind the `=`.
-/

namespace MarkupTemplate

/-- A word of a tag as a text without quotes, the sites of the tokens in this text, and the span
that the word takes up with its quotes. -/
structure Part where
  text : Text
  sites : List Site
  span : Span
  deriving DecidableEq, Repr

/-- The state of splitting the content of a tag into parts. -/
structure Splitter where
  /-- The parts that are complete. -/
  parts : List Part
  /-- What the next part has so far. -/
  text : Text
  sites : List Site
  /-- Where it begins. -/
  start : Nat
  /-- The quote that is open, and where it stands. -/
  quote : Option (Char × Nat)
  /-- Where the last token ends. -/
  tokenStop : Nat
  deriving DecidableEq, Repr

namespace Splitter

def initial (start : Nat) : Splitter := ⟨[], [], [], start, none, start⟩

/-- Complete the next part, if it has any text. The one behind it begins at `next`. -/
def finish (s : Splitter) (stop next : Nat) : Splitter :=
  if s.text = [] then { s with start := next }
  else
    { s with
      parts := s.parts ++ [⟨s.text, s.sites, ⟨s.start, stop⟩⟩], text := [], sites := [],
      start := next }

/-- The next part begins at the first text that it takes, or at a quote before that. -/
def startAt (s : Splitter) (offset : Nat) : Splitter :=
  if s.text = [] ∧ s.quote = none then { s with start := offset } else s

/-- Take a character into the next part. -/
def push (s : Splitter) (offset : Nat) (c : Char) : Splitter :=
  let s := s.startAt offset
  { s with text := s.text ++ [c] }

/-- Take a whole token into the next part. -/
def pushToken (s : Splitter) (offset : Nat) (slot : Slot) : Splitter :=
  let s := s.startAt offset
  { s with
    text := s.text ++ slot.token, sites := s.sites ++ [⟨s.text.byteLength, slot⟩],
    tokenStop := offset + slot.token.byteLength }

/-- Read a character where no token begins. -/
def readChar (s : Splitter) (offset : Nat) (c : Char) : Splitter :=
  match s.quote with
  | none =>
    if isBlank c then s.finish offset (offset + c.utf8Size)
    else if Word.isQuote c then { s with quote := some (c, offset) }
    else s.push offset c
  | some (quote, _) =>
    if c = quote then finish { s with quote := none } (offset + 1) (offset + 1)
    else s.push offset c

/-- Read what stands at an offset of a text with the given sites. -/
def read (sites : List Site) (s : Splitter) (offset : Nat) (c : Char) : Splitter :=
  if offset < s.tokenStop then s
  else
    match Site.at? offset sites with
    | some slot => s.pushToken offset slot
    | none => s.readChar offset c

def readAll (sites : List Site) : Splitter → Nat → Text → Splitter
  | s, _, [] => s
  | s, offset, c :: content => readAll sites (s.read sites offset c) (offset + c.utf8Size) content

/-- The parts of a content that ends at an offset, or the quote that is never closed. -/
def close (s : Splitter) (stop : Nat) : Except Misreading (List Part) :=
  match s.quote with
  | some (quote, offset) => .error ⟨.unterminatedQuote quote, Span.ofChar offset quote⟩
  | none => .ok (s.finish stop stop).parts

end Splitter

/-- The parts of the content of a tag that begins at an offset of a text with the given sites. -/
def Part.split (sites : List Site) (start : Nat) (content : Text) : Except Misreading (List Part) :=
  ((Splitter.initial start).readAll sites start content).close (start + content.byteLength)

namespace OpeningTag

variable [Alphabet]

/-- The tag with the attribute of a part. -/
def readPart (tag : OpeningTag) (part : Part) : Except Misreading OpeningTag :=
  let name : Text := part.text.takeWhile (· != '=')
  let value : Text := (part.text.dropWhile (· != '=')).drop 1
  let valueStart := name.byteLength + 1
  if part.sites.any (·.offset < valueStart) || !isAttributeName name then
    .error ⟨.invalidName .ofAttribute, part.span⟩
  else .ok (tag.withValue name (.scan value (part.sites.map (·.rebase valueStart))))

/-- The tag that some parts make, for a tag whose content begins at an offset. -/
def ofParts (start : Nat) : List Part → Except Misreading OpeningTag
  | [] => .error ⟨.invalidName .ofTag, ⟨start, start⟩⟩
  | part :: rest =>
    if part.sites.isEmpty && isTagName part.text then rest.foldlM readPart (bare part.text)
    else .error ⟨.invalidName .ofTag, part.span⟩

/-- The tag of a content that begins at an offset of a text with the given sites. -/
def ofMarked (sites : List Site) (start : Nat) (content : Text) : Except Misreading OpeningTag := do
  ofParts start (← Part.split sites start content)

end OpeningTag

/-- Take the slash that closes an element at once off the end of a trimmed content, and say whether
there was one. -/
def Text.splitSlash (content : Text) : Text × Bool :=
  let rest : Text := content.dropLast
  if content.getLast? = some '/' ∧
      (rest.getLast?.any (fun c => isBlank c || Word.isQuote c) ∨ ¬ rest.any isBlank) then
    (rest.trimEnd, true)
  else (content, false)

/-- Read the whole content of a tag that takes up a span of a text with the given sites. -/
def OpeningTag.readMarked [Alphabet] (sites : List Site) (span : Span) (content : Text) :
    Except Misreading (OpeningTag × Bool) := do
  let leading : Text := content.takeWhile isBlank
  let (content, closed) := content.trimStart.trimEnd.splitSlash
  if content.any isBlank then
    return (← ofMarked sites (span.start + 1 + leading.byteLength) content, closed)
  else if isTagName content then return (bare content, closed)
  else throw ⟨.invalidTag, span⟩

end MarkupTemplate
