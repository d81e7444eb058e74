import MarkupTemplate.Fault.Basic
import MarkupTemplate.Tree.Basic

/-!
# Plans

A plan is the program of a template: what is left to do once the markup has been read. The static
parts of the template are rendered already when the plan is made, so that a render copies them; the
other elements say how to resolve their texts. `Plan.produce` runs a plan on the values of one
render.
-/

namespace MarkupTemplate

/-- The program that renders an element. -/
inductive Plan where
  /-- An element that reads nothing, rendered beforehand. -/
  | static (element : Rendered)
  /-- An element that reads slots in its key, its attributes or its content. -/
  | dynamic (tag : Text) (key : Option Interpolation) (attributes : List (Text × Interpolation))
      (content : Content Interpolation (Child Plan Slot))

/-- What renders an element from the values of one render. -/
abbrev Producer := Bindings → Except Fault Rendered

namespace Plan

/-- The plan of an element that is not static, with the given plan for its content. -/
def ofHead (head : Head Span Interpolation) (content : Content Interpolation (Child Plan Slot)) :
    Plan :=
  dynamic head.tag head.key head.attributes.entries content

mutual
/-- The plan of a parsed template. -/
def ofTree : Tree → Plan
  | .mk head (.text body) =>
    if Tree.isStatic (.mk head (.text body)) then static (Tree.prebuilt (.mk head (.text body)))
    else ofHead head (.text body)
  | .mk head (.nodes children) =>
    if Tree.isStatic (.mk head (.nodes children)) then
      static (Tree.prebuilt (.mk head (.nodes children)))
    else ofHead head (.nodes (ofChildren children))

/-- The plans of children. -/
def ofChildren : List (Child Tree Slot) → List (Child Plan Slot)
  | [] => []
  | .element e :: rest => .element (ofTree e) :: ofChildren rest
  | .splice slot :: rest => .splice slot :: ofChildren rest
end

variable [NumberFormat]

mutual
/-- Render an element: its key, its attributes in order, then its content. The first value that is
missing or of the wrong shape is the cause of failure. -/
def run (b : Bindings) : Plan → Except Cause Rendered
  | static e => .ok e
  | dynamic tag key attributes (.text body) => do
    let key ← key.mapM (Interpolation.resolve b)
    let attributes ← Element.traverseEntries (Interpolation.resolve b) attributes
    return .mk ⟨tag, key, attributes, ()⟩ (.text (← Interpolation.resolve b body))
  | dynamic tag key attributes (.nodes children) => do
    let key ← key.mapM (Interpolation.resolve b)
    let attributes ← Element.traverseEntries (Interpolation.resolve b) attributes
    return .mk ⟨tag, key, attributes, ()⟩ (.nodes (← runChildren b children))

/-- Render children in order. -/
def runChildren (b : Bindings) :
    List (Child Plan Slot) → Except Cause (List (Child Rendered Splice))
  | [] => .ok []
  | .element plan :: rest => do
    let e ← run b plan
    return .element e :: (← runChildren b rest)
  | .splice slot :: rest => do
    let items ← b.readList slot
    return .splice ⟨slot, items⟩ :: (← runChildren b rest)
end

/-- The producer of a plan. Its faults show no place and name no template. -/
def produce (plan : Plan) : Producer := fun b => (plan.run b).mapError Fault.ofCause

end Plan

end MarkupTemplate
