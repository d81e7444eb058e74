import MarkupTemplate.Element.Basic
import MarkupTemplate.Json.Writer
import MarkupTemplate.Slot

/-!
# Rendered elements

What a template renders to: elements whose texts are texts and whose splices are the lists that were
bound. A rendered element has a JSON form for whatever shows it, an object with the fields `tag`,
`key` if there is a key, `attrs` and `children`; the children are a string or an array. The form can
be had as text, with fields and attributes in the order they were written, or as a value, with all
of them in order of their names.
-/

namespace MarkupTemplate

/-- The list bound to a slot, put among the children of an element. -/
structure Splice where
  slot : Slot
  items : List Json

/-- An element without reads. -/
abbrev Rendered := Element Unit Text Splice

namespace Rendered

/-- An element without key, attributes and children. -/
def ofTag (tag : Text) : Rendered := .mk ⟨tag, none, .empty, ()⟩ .empty

def withAttribute (e : Rendered) (name value : Text) : Rendered :=
  .mk { e.head with attributes := e.head.attributes.insert name value } e.content

def withKey (e : Rendered) (key : Text) : Rendered := .mk { e.head with key := some key } e.content

def withText (e : Rendered) (body : Text) : Rendered := .mk e.head (.text body)

/-- The element with one more child. Text gives way to it. -/
def withChild (e : Rendered) (child : Child Rendered Splice) : Rendered :=
  .mk e.head (e.content.push child)

def attribute? (e : Rendered) (name : Text) : Option Text := e.head.attributes.lookup? name

/-- The text of an element that has text for its content. -/
def text? (e : Rendered) : Option Text :=
  match e.content with
  | .text body => some body
  | .nodes _ => none

/-- The child elements, without the splices. -/
def elements (e : Rendered) : List Rendered := e.content.children.filterMap Child.element?

/-! ### The JSON form -/

/-- How the fields of an object are put in order. -/
abbrev Arrangement := List (Text × Json) → List (Text × Json)

/-- The JSON form of a key, if there is one. -/
def keyField (key : Option Text) : List (Text × Json) :=
  (key.map fun k => (txt "key", Json.string k)).toList

/-- The JSON form of an element with the given form of its content. -/
def describeHead (arrange : Arrangement) (head : Head Unit Text) (content : Json) : Json :=
  .object (arrange
    ((txt "tag", .string head.tag) :: keyField head.key ++
      [(txt "attrs", .object (arrange (head.attributes.entries.map fun e => (e.1, .string e.2)))),
        (txt "children", content)]))

mutual
/-- The JSON form of an element with its fields, and those of its attributes, in some order. -/
def describe (arrange : Arrangement) : Rendered → Json
  | .mk head (.text body) => describeHead arrange head (.string body)
  | .mk head (.nodes children) => describeHead arrange head (.array (describeAll arrange children))

/-- The JSON forms of children. A splice is an object with the list in its only field. -/
def describeAll (arrange : Arrangement) : List (Child Rendered Splice) → List Json
  | [] => []
  | .element e :: rest => describe arrange e :: describeAll arrange rest
  | .splice list :: rest =>
    .object [(txt "children", .array list.items)] :: describeAll arrange rest
end

/-- The JSON text of an element, in the order of writing. -/
def jsonText [NumberFormat] (e : Rendered) : Text := (describe id e).write

/-- The JSON value of an element, in order of names. -/
def toJson (e : Rendered) : Json := describe sortFields e

end Rendered

end MarkupTemplate
