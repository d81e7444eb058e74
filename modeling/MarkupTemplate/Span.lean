import MarkupTemplate.Text.Basic

/-!
# Spans

A span is a stretch of a text between two byte offsets. Nothing ties it to a text: where it runs out
of the text, or cuts a character in two, it covers the empty text.
-/

namespace MarkupTemplate

/-- A stretch of text, from the byte `start` up to but without the byte `stop`. -/
structure Span where
  start : Nat
  stop : Nat
  deriving DecidableEq, Repr

namespace Span

/-- The span of one character that begins at an offset. -/
def ofChar (start : Nat) (c : Char) : Span := ⟨start, start + c.utf8Size⟩

def isEmpty (s : Span) : Bool := s.stop ≤ s.start

/-- The text that the span covers. -/
def slice (s : Span) (t : Text) : Text := (t.slice? s.start s.stop).getD []

end Span

end MarkupTemplate
