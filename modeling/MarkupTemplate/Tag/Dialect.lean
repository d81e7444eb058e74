import MarkupTemplate.Text.Basic

/-!
# Dialects

A dialect of markup says which tags are void. A void tag opens an element that never has content, so
it needs no closing tag, and one that comes is passed over. Two dialects are the same if they have
the same void tags.
-/

namespace MarkupTemplate

/-- A choice of void tags. -/
structure Dialect where
  voidTags : List Text
  deriving Repr

namespace Dialect

/-- The void tags of the standard dialect. -/
def standardVoidTags : List Text :=
  [txt "area", txt "base", txt "br", txt "col", txt "command", txt "embed", txt "hr", txt "img",
   txt "input", txt "keygen", txt "link", txt "meta", txt "param", txt "source", txt "track",
   txt "wbr"]

/-- The dialect that is used unless another one is chosen. -/
def standard : Dialect := ⟨standardVoidTags⟩

def empty : Dialect := ⟨[]⟩

def isVoid (d : Dialect) (tag : Text) : Bool := d.voidTags.contains tag

def insert (d : Dialect) (tag : Text) : Dialect :=
  if d.isVoid tag then d else ⟨d.voidTags ++ [tag]⟩

def erase (d : Dialect) (tag : Text) : Dialect := ⟨d.voidTags.filter (· != tag)⟩

/-- Whether two dialects have the same void tags. -/
def same (d e : Dialect) : Bool := d.voidTags.all e.isVoid && e.voidTags.all d.isVoid

end Dialect

end MarkupTemplate
