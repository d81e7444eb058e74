import MarkupTemplate.Bindings
import MarkupTemplate.Markup

/-!
# The identity of a template

Two renders share a compiled template if their markup and the shapes of their values are the same.
The identity of a template is a text that says both: the text of the markup, and behind a NUL the
shape of each value with the byte offset of its token. A template without values is its own text.
The key of a template is the key of its identity.
-/

namespace MarkupTemplate.Markup

/-- The shape of a value and the offset of its token. -/
def signature (pair : Site × Shape) : Text := pair.2.signature :: Text.ofNat pair.1.offset

/-- The text that identifies a template with values of the given shapes. -/
def identity (m : Markup) (shapes : List Shape) : Text :=
  match m.sites.zip shapes with
  | [] => m.text
  | pairs => m.text ++ '\x00' :: pairs.flatMap signature

def key (m : Markup) (shapes : List Shape) : Key := Key.ofText (m.identity shapes)

end MarkupTemplate.Markup
