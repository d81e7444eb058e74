import MarkupTemplate.Key
import MarkupTemplate.Slot

/-!
# What can go wrong

Every fault has a cause, and the cause decides its kind, its reason and its advice. A host that
turns a program into a producer may state causes of its own.
-/

namespace MarkupTemplate

/-- The broad category of a fault. -/
inductive FaultKind where
  /-- The markup does not describe one well-formed element. -/
  | malformed
  /-- There are too many values, or the fragments do not surround them. -/
  | arity
  /-- A producer or a value was expected and is not there. -/
  | lookup
  /-- Something cannot be turned into a value. -/
  | value
  deriving DecidableEq, Repr

namespace FaultKind

def text : FaultKind → Text
  | malformed => txt "structure"
  | arity => txt "arity"
  | lookup => txt "lookup"
  | value => txt "value"

end FaultKind

/-- What a name in a tag is the name of. -/
inductive NameRole where
  | ofTag
  | ofAttribute
  deriving DecidableEq, Repr

namespace NameRole

def text : NameRole → Text
  | ofTag => txt "tag"
  | ofAttribute => txt "attribute"

end NameRole

/-- The cause of a fault. -/
inductive Cause where
  /-- An element follows the root element. -/
  | multipleRoots
  /-- There is no element. -/
  | missingRoot
  /-- A closing tag names another element than the open one, if any is open. -/
  | mismatchedTag (expected : Option Text)
  /-- The markup ends inside the element of a tag. -/
  | unclosedTag (tag : Text)
  /-- A tag has no closing bracket. -/
  | unterminatedTag
  /-- A quoted value has no closing quote. -/
  | unterminatedQuote (quote : Char)
  /-- Text stands beside elements, or outside the root element. -/
  | strayText (insideElement : Bool)
  /-- The content of a tag is no tag name. -/
  | invalidTag
  /-- A name in a tag with attributes is no name. -/
  | invalidName (role : NameRole)
  /-- There are more values than slots. -/
  | tooManyValues (received : Nat)
  /-- There is not one more fragment than values. -/
  | fragmentMismatch (fragments values : Nat)
  /-- No producer is stored under a key. -/
  | missingProducer (key : Key)
  /-- Producers of several templates are stored under a key. -/
  | ambiguousKey (key : Key) (templates : Nat)
  /-- A slot has no value. -/
  | missingValue (slot : Slot) (supplied : Nat)
  /-- A slot that takes a list has another value. -/
  | expectedList (slot : Slot)
  /-- Something has no JSON form. -/
  | unserializable (detail : Text)
  /-- A cause that a host states. -/
  | stated (kind : FaultKind) (reason : Text) (help : Option Text)
  deriving DecidableEq, Repr

namespace Cause

def kind : Cause → FaultKind
  | multipleRoots | missingRoot | mismatchedTag _ | unclosedTag _ | unterminatedTag => .malformed
  | unterminatedQuote _ | strayText _ | invalidTag | invalidName _ => .malformed
  | tooManyValues _ | fragmentMismatch _ _ => .arity
  | missingProducer _ | ambiguousKey _ _ | missingValue _ _ | expectedList _ => .lookup
  | unserializable _ => .value
  | stated kind _ _ => kind

/-- The reason that a report names. -/
def reason : Cause → Text
  | multipleRoots => txt "multiple root elements"
  | missingRoot => txt "missing root element"
  | mismatchedTag _ => txt "mismatched closing tag"
  | unclosedTag _ => txt "unclosed tag"
  | unterminatedTag => txt "unterminated tag"
  | unterminatedQuote _ => txt "unterminated quote"
  | strayText _ => txt "unexpected text"
  | invalidTag | invalidName _ => txt "invalid name"
  | tooManyValues _ => txt "too many values"
  | fragmentMismatch _ _ => txt "fragment count mismatch"
  | missingProducer _ => txt "missing producer"
  | ambiguousKey _ _ => txt "ambiguous cache key"
  | missingValue _ _ => txt "missing property"
  | expectedList _ => txt "expected a list"
  | unserializable _ => txt "value is unserializable"
  | stated _ reason _ => reason

/-- The closing tag that an open element waits for. -/
def expectedClosing : Option Text → Text
  | some tag => txt "expected `</" ++ tag ++ txt ">`"
  | none => txt "no element is open here"

/-- The advice of a report. -/
def help : Cause → Option Text
  | multipleRoots => some (txt "wrap sibling elements in a single parent element")
  | missingRoot => some (txt "a template must contain exactly one root element")
  | mismatchedTag expected => some (expectedClosing expected)
  | unclosedTag tag => some (expectedClosing (some tag))
  | unterminatedTag => some (txt "close the tag with `>`")
  | unterminatedQuote quote => some (txt "close the value with `" ++ quote :: txt "`")
  | strayText false => some (txt "text must be placed inside the root element")
  | strayText true =>
    some (txt "an element holds either text or child elements, "
      ++ txt "wrap the text in an element of its own")
  | invalidTag => some (txt "expected a tag name such as `div`")
  | invalidName role =>
    some (txt "a " ++ role.text ++ txt " name begins with a letter or `_` and continues with "
      ++ txt "letters, digits, `_`, `-`, `:` or `.`")
  | tooManyValues received =>
    some (txt "a template accepts at most " ++ Text.ofNat poolSize ++ txt " values, received "
      ++ Text.ofNat received)
  | fragmentMismatch fragments values =>
    some (Text.ofNat values ++ txt " values require " ++ Text.ofNat (values + 1)
      ++ txt " static fragments, received " ++ Text.ofNat fragments)
  | missingProducer key =>
    some (txt "no producer is cached under key `" ++ key.text
      ++ txt "`, compile the template first")
  | ambiguousKey key templates =>
    some (Text.ofNat templates ++ txt " different templates hash to key `" ++ key.text
      ++ txt "`, render them by their fragments instead")
  | missingValue slot supplied =>
    some ('`' :: slot.token ++ txt "` was read but only " ++ Text.ofNat supplied
      ++ txt " values were supplied")
  | expectedList slot =>
    some ('`' :: slot.token ++ txt "` was compiled as a splice and must be bound to an array")
  | unserializable detail => some detail
  | stated _ _ help => help

end Cause

end MarkupTemplate
