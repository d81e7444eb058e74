import MarkupTemplate.Text.Alphabet

/-!
# Names in tags

A name begins with a letter or `_` and goes on with letters, digits, `_`, `-`, `:` or `.`, where the
letters and digits are those of identifiers in any script. The name of an attribute may also begin
with `:` or `@`.
-/

namespace MarkupTemplate

variable [Alphabet]

/-- Whether a tag name may begin with the character. -/
def isNameStart (c : Char) : Bool := c = '_' || Alphabet.isStart c

/-- Whether a name may go on with the character. -/
def isNameContinue (c : Char) : Bool := Alphabet.isContinue c || c = '-' || c = ':' || c = '.'

/-- Whether an attribute name may begin with the character. -/
def isAttributeStart (c : Char) : Bool := isNameStart c || c = ':' || c = '@'

/-- Whether a text is a name that begins with one kind of character and goes on with another. -/
def isNameWith (start : Char → Bool) : Text → Bool
  | [] => false
  | c :: cs => start c && cs.all isNameContinue

def isTagName (t : Text) : Bool := isNameWith isNameStart t

def isAttributeName (t : Text) : Bool := isNameWith isAttributeStart t

@[simp] theorem isTagName_nil : isTagName [] = false := rfl

@[simp] theorem isAttributeName_nil : isAttributeName [] = false := rfl

/-- Every tag name is an attribute name. -/
theorem isAttributeName_of_isTagName {t : Text} (h : isTagName t = true) :
    isAttributeName t = true := by
  cases t with
  | nil => simp at h
  | cons c cs =>
    simp only [isTagName, isAttributeName, isNameWith, Bool.and_eq_true] at h ⊢
    exact ⟨by simp [isAttributeStart, h.1], h.2⟩

end MarkupTemplate
