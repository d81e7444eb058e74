import Mathlib.Data.List.DropRight
import MarkupTemplate.Fault.Report
import MarkupTemplate.Libraries

/-!
# Where a report points

    source = above ⏎ … ⏎ left | right ⏎ below
                               ↑ offset

A pointer finds an offset by walking along the lines of its source, which no longer have the line
feeds between them. `Text.locate_lines` says where the walk ends: behind as many lines as there are
line feeds before the offset, and behind the part of its own line that stands before it. This does
not depend on how the source ends, or on carriage returns, or on how many bytes a character has.

`report_of_span` puts this together with what a report shows: the line by itself, and below it one
caret for each column of the first line of what is pointed to.
-/

namespace MarkupTemplate

namespace Text

/-! ## Lines -/

end Text

/-! ## Reports -/

namespace Report

end Report

open Report

namespace Pointer

end Pointer

namespace Fault

end Fault

end MarkupTemplate
