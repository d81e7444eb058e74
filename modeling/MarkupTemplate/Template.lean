import MarkupTemplate.Identity
import MarkupTemplate.Plan.Source
import MarkupTemplate.Tree.Builder

/-!
# Compiled templates

Compiling reads the markup of a template into a tree and makes the plan and its source text. A fault
that is met on the way shows its place in the markup and names the key of the template.
-/

namespace MarkupTemplate

structure Template where
  key : Key
  source : Text
  plan : Plan

namespace Template

def ofTree (key : Key) (tree : Tree) : Template :=
  let plan := Plan.ofTree tree
  ⟨key, plan.source key, plan⟩

/-- Compile markup for values of the given shapes. It is read from its text and its sites. -/
def compile [Alphabet] (dialect : Dialect) (shapes : List Shape) (key : Key) (m : Markup) :
    Except Fault Template :=
  match Tree.ofMarked dialect shapes m.marked with
  | .ok tree => .ok (ofTree key tree)
  | .error e => .error ((Fault.ofSpan m.text e.span e.cause).named key)

end Template

end MarkupTemplate
