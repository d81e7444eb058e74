import MarkupTemplate.Fault.Basic
import MarkupTemplate.Text.Blank
import MarkupTemplate.Text.Metric

/-!
# Pointers

A pointer shows a place to a reader: the line it is on, the column it begins at, the number of
columns to underline, and the text of the line. Lines and columns are counted from zero, and the
columns are those of a terminal. A place that runs over several lines is underlined on the first of
them, and a place of no width gets one column.
-/

namespace MarkupTemplate

namespace Text

/-- The lines of a text. A line feed ends a line, so none follows the last one. -/
def lines : Text → List Text
  | [] => []
  | c :: cs =>
    if c = '\n' then [] :: lines cs
    else match lines cs with
      | [] => [[c]]
      | line :: rest => (c :: line) :: rest

/-- The first line of a text, without the line feed that ends it and the carriage return before
that. -/
def firstLine (t : Text) : Text :=
  let line := t.takeWhile (· != '\n')
  if line.length < t.length ∧ line.getLast? = some '\r' then line.dropLast else line

end Text

/-- A place as it is shown to a reader. -/
structure Pointer where
  line : Nat
  column : Nat
  length : Nat
  text : Text
  deriving DecidableEq, Repr

variable [Metric]

namespace Pointer

/-- The line and the column of a byte offset, if it is on one of the lines. The count begins with
the given line. An offset inside a character counts bytes. -/
def locate? : Nat → List Text → Nat → Option (Nat × Nat)
  | _, [], _ => none
  | number, line :: rest, offset =>
    if offset ≤ line.byteLength then
      some (number, ((Text.takeBytes? line offset).map Text.columns).getD offset)
    else locate? (number + 1) rest (offset - (line.byteLength + 1))

/-- The line and the column of a byte offset. An offset past the end is at the end of the last
line. -/
def locate (lines : List Text) (offset : Nat) : Nat × Nat :=
  (locate? 0 lines offset).getD (lines.length - 1, (lines.getLast?.map Text.columns).getD 0)

/-- The pointer to a place. -/
def ofPlace (place : Place) : Pointer :=
  let lines := place.source.lines
  let (line, column) := locate lines place.span.start
  { line, column
    length := max 1 (place.span.slice place.source).firstLine.columns
    text := dropWhileEnd (· = '\r') (((lines[line]?).or lines.getLast?).getD []) }

end Pointer

end MarkupTemplate
