import MarkupTemplate.Text.Basic

/-!
# Metrics

A pointer underlines part of a line, so it has to know how many columns a text takes on a terminal.
That is a matter of tables as well, and of the ways in which characters join. A `Metric` is one
answer to it, and nothing that is proved of pointers depends on which.
-/

namespace MarkupTemplate

/-- How much room texts take. -/
class Metric where
  /-- The number of columns that a text takes. -/
  columns : Text → Nat

/-- The number of columns that a text takes. -/
def Text.columns [Metric] [Metric] (t : Text) : Nat := Metric.columns t

end MarkupTemplate
