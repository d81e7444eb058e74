import MarkupTemplate.Attributes
import MarkupTemplate.Number.Binary64

/-!
# Values

The values that a template is rendered with are JSON values. A number is an integer if it was
written as one and fits 64 bits, and a floating-point number otherwise. The fields of an object are
kept in increasing order of their names, each name once, so that equal objects are equal lists.
-/

namespace MarkupTemplate

namespace Text

/-- Whether one text stands before another in the order of code points, which is the order of
their UTF-8 bytes. -/
def precedes : Text → Text → Bool
  | _, [] => false
  | [], _ :: _ => true
  | a :: s, b :: t =>
    if a.toNat < b.toNat then true else if b.toNat < a.toNat then false else precedes s t

end Text

/-- Put a value under a name in a list in order of names, in the place of the value that the name
had. -/
def insertField {α : Type} (name : Text) (value : α) : List (Text × α) → List (Text × α)
  | [] => [(name, value)]
  | (n, v) :: rest =>
    if n = name then (name, value) :: rest
    else if name.precedes n then (name, value) :: (n, v) :: rest
    else (n, v) :: insertField name value rest

/-- Named values in order of names. A name that comes twice keeps its last value. -/
def sortFields {α : Type} (fields : List (Text × α)) : List (Text × α) :=
  fields.foldl (fun sorted field => insertField field.1 field.2 sorted) []

/-- A JSON value. -/
inductive Json where
  | null
  | bool (value : Bool)
  | integer (value : Int)
  | float (value : Binary64)
  | string (value : Text)
  | array (items : List Json)
  | object (fields : List (Text × Json))

namespace Json

instance : Inhabited Json := ⟨null⟩

/-- Whether a value is the null value. -/
def isNull : Json → Bool
  | null => true
  | _ => false

/-- The value of a field of an object. -/
def field? (name : Text) : Json → Option Json
  | object fields => fields.lookup name
  | _ => none

end Json

end MarkupTemplate
