import MarkupTemplate.Markup
import MarkupTemplate.Span
import MarkupTemplate.Text.Blank

/-!
# Runs and tags

Markup is cut at its angle brackets into runs of text and tags, by turns. A tag begins with `<` and
ends at the next `>`; if another `<` or the end of the markup comes before that, the tag is
unterminated and the cutting ends there. Every piece knows the byte offset at which it begins.
-/

namespace MarkupTemplate

/-- A stretch of markup between two tags. -/
structure Run where
  start : Nat
  symbols : Markup
  deriving DecidableEq, Repr

/-- A tag, by what stands between its brackets. -/
structure Tag where
  start : Nat
  content : Markup
  deriving DecidableEq, Repr

/-- How a cutting ends: with a run of text, or with a tag that is not terminated. -/
inductive Ending where
  | run (run : Run)
  | unterminated (span : Span)
  deriving DecidableEq, Repr

/-- The tags of a markup, each behind the run that leads to it, and the ending. -/
structure Cutting where
  tags : List (Run × Tag)
  ending : Ending
  deriving DecidableEq, Repr

namespace Run

def isBlank (r : Run) : Bool := r.symbols.all (·.isCharWith MarkupTemplate.isBlank)

/-- The span of a run without the white space around it. -/
def trimmedSpan (r : Run) : Span :=
  let blank : Symbol → Bool := (·.isCharWith MarkupTemplate.isBlank)
  let leading : Markup := r.symbols.takeWhile blank
  let trimmed : Markup := dropWhileEnd blank (r.symbols.dropWhile blank)
  let start := r.start + leading.byteLength
  ⟨start, start + trimmed.byteLength⟩

end Run

namespace Tag

def span (t : Tag) : Span := ⟨t.start, t.start + 1 + t.content.byteLength + 1⟩

end Tag

namespace Cutting

/-- Whether a symbol belongs to a run of text. -/
def isRunSymbol (x : Symbol) : Bool := !x.isChar '<'

/-- Whether a symbol belongs to the content of a tag. -/
def isTagSymbol (x : Symbol) : Bool := !x.isChar '<' && !x.isChar '>'

/-- Cut markup that begins at a byte offset. -/
def ofMarkup (start : Nat) (m : Markup) : Cutting :=
  let run : Run := ⟨start, m.takeWhile isRunSymbol⟩
  let bracket := start + run.symbols.byteLength
  match _h : m.dropWhile isRunSymbol with
  | [] => ⟨[], .run run⟩
  | _ :: inside =>
    let tag : Tag := ⟨bracket, inside.takeWhile isTagSymbol⟩
    match _h' : inside.dropWhile isTagSymbol with
    | .char '>' :: rest =>
      let cutting := ofMarkup tag.span.stop rest
      ⟨(run, tag) :: cutting.tags, cutting.ending⟩
    | _ => ⟨[], .unterminated ⟨bracket, bracket + 1 + tag.content.byteLength⟩⟩
termination_by m.length
decreasing_by
  have h := (List.dropWhile_sublist (l := m) isRunSymbol).length_le
  have h' := (List.dropWhile_sublist (l := inside) isTagSymbol).length_le
  rw [_h] at h
  rw [_h'] at h'
  simp at h h'
  omega

end Cutting

end MarkupTemplate
