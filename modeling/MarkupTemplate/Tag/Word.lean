import MarkupTemplate.Interpolation
import MarkupTemplate.Span

/-!
# The words of a tag

The content of an opening tag is a sequence of words: the name of the tag, and one word for each
attribute. White space ends a word. A quote in a word begins a quoted part that runs up to the next
quote of the same kind; the word takes what is between the quotes, blanks included, and ends there.
A word without symbols is no word, so an empty pair of quotes by itself is passed over.
-/

namespace MarkupTemplate

/-- A cause together with the span of the markup that shows it. -/
structure Misreading where
  cause : Cause
  span : Span
  deriving DecidableEq, Repr

/-- A word of a tag without its quotes, and the span that it takes up with them. -/
structure Word where
  symbols : Markup
  span : Span
  deriving DecidableEq, Repr

namespace Word

/-- Whether a character opens a quoted part. -/
def isQuote (c : Char) : Bool := c = '\'' || c = '"'

theorem isQuote_iff {c : Char} : isQuote c = true ↔ c = '\'' ∨ c = '"' := by
  simp [isQuote]

/-- The quote that a symbol is. -/
def quote? : Symbol → Option Char
  | .char c => if isQuote c then some c else none
  | .slot _ => none

/-- Whether a symbol neither ends a word nor opens a quoted part. -/
def isBare (x : Symbol) : Bool := !x.isCharWith fun c => isBlank c || isQuote c

/-- The word of some symbols, if there are any. -/
def ofSymbols (symbols : Markup) (start stop : Nat) : List Word :=
  if symbols = [] then [] else [⟨symbols, ⟨start, stop⟩⟩]

/-- The words of the content of a tag that begins at a byte offset, or the quote that is never
closed. -/
def split (start : Nat) (m : Markup) : Except Misreading (List Word) :=
  let bare : Markup := m.takeWhile isBare
  let stop := start + bare.byteLength
  match _h : m.dropWhile isBare with
  | [] => .ok (ofSymbols bare start stop)
  | x :: rest =>
    match quote? x with
    | none => (split (stop + x.byteLength) rest).map (ofSymbols bare start stop ++ ·)
    | some quote =>
      let quoted : Markup := rest.takeWhile (!·.isChar quote)
      match _h' : rest.dropWhile (!·.isChar quote) with
      | [] => .error ⟨.unterminatedQuote quote, Span.ofChar stop quote⟩
      | close :: rest' =>
        let stop' := stop + x.byteLength + quoted.byteLength + close.byteLength
        (split stop' rest').map (ofSymbols (bare ++ quoted) start stop' ++ ·)
termination_by m.length
decreasing_by
  · have h := (List.dropWhile_sublist (l := m) isBare).length_le
    rw [_h] at h
    simp at h
    omega
  · have h := (List.dropWhile_sublist (l := m) isBare).length_le
    have h' := (List.dropWhile_sublist (l := rest) (!·.isChar quote)).length_le
    rw [_h] at h
    rw [_h'] at h'
    simp at h h'
    omega

end Word

end MarkupTemplate
