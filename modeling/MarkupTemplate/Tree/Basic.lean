import MarkupTemplate.Element.Rendered
import MarkupTemplate.Interpolation
import MarkupTemplate.Span

/-!
# Parsed templates

A parsed template is an element whose texts are interpolated and whose splices are slots. Every
element knows the span of the tag that opened it. An element is *static* if nothing in it reads a
slot; then it renders to the same thing every time, which is `prebuilt`.
-/

namespace MarkupTemplate

/-- An element of a parsed template. -/
abbrev Tree := Element Span Interpolation Slot

namespace Tree

/-- Whether neither the key nor an attribute reads a slot. -/
def headIsStatic (head : Head Span Interpolation) : Bool :=
  head.key.all Interpolation.isStatic && head.attributes.values.all Interpolation.isStatic

mutual
/-- Whether nothing in the element reads a slot. -/
def isStatic : Tree → Bool
  | .mk head (.text body) => headIsStatic head && body.isStatic
  | .mk head (.nodes children) => headIsStatic head && allStatic children

def allStatic : List (Child Tree Slot) → Bool
  | [] => true
  | .element e :: rest => isStatic e && allStatic rest
  | .splice _ :: _ => false
end

/-- A head without any values. A key that reads a slot is no key. -/
def prebuiltHead (head : Head Span Interpolation) : Head Unit Text where
  tag := head.tag
  key := head.key.bind Interpolation.literal?
  attributes := head.attributes.map Interpolation.literalText
  origin := ()

mutual
/-- The element without any values: what reads a slot is empty, and splices are left out. A static
element renders to this. -/
def prebuilt : Tree → Rendered
  | .mk head (.text body) => .mk (prebuiltHead head) (.text body.literalText)
  | .mk head (.nodes children) => .mk (prebuiltHead head) (.nodes (prebuiltChildren children))

def prebuiltChildren : List (Child Tree Slot) → List (Child Rendered Splice)
  | [] => []
  | .element e :: rest => .element (prebuilt e) :: prebuiltChildren rest
  | .splice _ :: rest => prebuiltChildren rest
end

end Tree

end MarkupTemplate
