import MarkupTemplate.Tree.Builder

/-!
# The grammar of documents

What markup a template may be made of, said without a stack. Markup is cut into *lexemes*, which are
runs of text and tags by turns, and a document is a sequence of lexemes:

    document  ::=  margin element margin
    margin    ::=  (blank run | closing tag of a void name)*
    element   ::=  opening tag that is void or closes itself
                |  opening tag, content, closing tag of the same name
    content   ::=  children
                |  children that come to nothing, then a run of text
    children  ::=  (element | closing tag of a void name | blank run | run that reads a list)*

`IsDocument` is this grammar as a relation between lexemes and the element that they describe. Blank
runs and the closing tags of void names come to nothing, and a run that reads a slot bound to a list
comes to a splice of the first such slot. `Cuts` says what the lexemes of a markup are.
-/

namespace MarkupTemplate

/-- A run of text or a tag. -/
inductive Lexeme where
  | run (run : Run)
  | tag (tag : Tag)

namespace Lexeme

/-- Whether the lexeme is a run of text. -/
def isRun : Lexeme → Bool
  | run _ => true
  | tag _ => false

end Lexeme

namespace Run

/-- The slots in a run. -/
def slots (r : Run) : List Slot := r.symbols.filterMap Symbol.slot?

/-- The first slot in a run that is bound to a list. -/
def list? (shapes : List Shape) (r : Run) : Option Slot :=
  r.slots.find? fun slot => shapes[slot.index]? = some .list

/-- The text of a run as the content of an element. -/
def text (r : Run) : Interpolation := (Interpolation.ofMarkup r.symbols).normalized

end Run

namespace Tag

/-- The name in a closing tag: what stands behind the slash, without the white space around it. -/
def closing? (t : Tag) : Option Text :=
  match t.content with
  | .char '/' :: name => some (Text.trimEnd (Text.trimStart (Markup.text name)))
  | _ => none

/-- Whether the tag is an opening tag that reads as `opening`; `closed` says that it closes its
element itself. -/
def Opens [Alphabet] (t : Tag) (opening : OpeningTag) (closed : Bool) : Prop :=
  t.closing? = none ∧ OpeningTag.read t.span t.content = .ok (opening, closed)

end Tag

/-- The element of an opening tag apart from its content. -/
def OpeningTag.head (opening : OpeningTag) (span : Span) : Head Span Interpolation :=
  ⟨opening.name, opening.key, opening.attributes, span⟩

/-! ## Lexemes -/

/-- The lexemes of markup that begins at a byte offset. There are none if the last tag is not
terminated. -/
inductive Cuts : Nat → Markup → List Lexeme → Prop
  | last {start : Nat} {text : Markup} :
      (∀ x ∈ text, x ≠ .char '<') → Cuts start text [.run ⟨start, text⟩]
  | tag {start : Nat} {text content rest : Markup} {lexemes : List Lexeme} :
      (∀ x ∈ text, x ≠ .char '<') →
      (∀ x ∈ content, x ≠ .char '<' ∧ x ≠ .char '>') →
      Cuts (start + text.byteLength + 1 + content.byteLength + 1) rest lexemes →
      Cuts start (text ++ .char '<' :: (content ++ .char '>' :: rest))
        (.run ⟨start, text⟩ :: .tag ⟨start + text.byteLength, content⟩ :: lexemes)

/-- The lexemes of runs and tags by turns. -/
def lexemes (tags : List (Run × Tag)) : List Lexeme :=
  tags.flatMap fun pair => [.run pair.1, .tag pair.2]

@[simp] theorem lexemes_nil : lexemes [] = [] := rfl

@[simp] theorem lexemes_cons (r : Run) (t : Tag) (tags : List (Run × Tag)) :
    lexemes ((r, t) :: tags) = .run r :: .tag t :: lexemes tags := rfl

/-! ## Documents -/

section Grammar

variable (dialect : Dialect) (shapes : List Shape)

section

variable [Alphabet]

mutual
/-- The element that lexemes describe. -/
inductive IsElement : List Lexeme → Tree → Prop
  /-- A void tag, or one that closes itself. -/
  | complete {t : Tag} {opening : OpeningTag} {closed : Bool} :
      t.Opens opening closed → closed = true ∨ dialect.isVoid opening.name = true →
      IsElement [.tag t] (.mk (opening.head t.span) (.nodes []))
  /-- An opening tag, content, and the closing tag of the same name. -/
  | enclosing {t t' : Tag} {opening : OpeningTag} {inside : List Lexeme}
      {content : Content Interpolation (Child Tree Slot)} :
      t.Opens opening false → dialect.isVoid opening.name = false →
      IsContent inside content → t'.closing? = some opening.name →
      IsElement (.tag t :: (inside ++ [.tag t'])) (.mk (opening.head t.span) content)

/-- The content that lexemes describe. -/
inductive IsContent : List Lexeme → Content Interpolation (Child Tree Slot) → Prop
  | children {inside : List Lexeme} {children : List (Child Tree Slot)} :
      IsChildren inside children → IsContent inside (.nodes children)
  /-- A run of text that nothing has come before. -/
  | text {inside : List Lexeme} {r : Run} :
      IsChildren inside [] → r.isBlank = false → r.list? shapes = none →
      IsContent (inside ++ [.run r]) (.text r.text)

/-- The children that lexemes describe. -/
inductive IsChildren : List Lexeme → List (Child Tree Slot) → Prop
  | nil : IsChildren [] []
  | element {l rest : List Lexeme} {e : Tree} {children : List (Child Tree Slot)} :
      IsElement l e → IsChildren rest children → IsChildren (l ++ rest) (.element e :: children)
  | void {t : Tag} {name : Text} {rest : List Lexeme} {children : List (Child Tree Slot)} :
      t.closing? = some name → dialect.isVoid name = true → IsChildren rest children →
      IsChildren (.tag t :: rest) children
  | blank {r : Run} {rest : List Lexeme} {children : List (Child Tree Slot)} :
      r.isBlank = true → IsChildren rest children → IsChildren (.run r :: rest) children
  | splice {r : Run} {slot : Slot} {rest : List Lexeme} {children : List (Child Tree Slot)} :
      r.list? shapes = some slot → IsChildren rest children →
      IsChildren (.run r :: rest) (.splice slot :: children)
end

end

/-- What may stand around the root element. -/
inductive IsMargin : List Lexeme → Prop
  | nil : IsMargin []
  | blank {r : Run} {rest : List Lexeme} :
      r.isBlank = true → IsMargin rest → IsMargin (.run r :: rest)
  | void {t : Tag} {name : Text} {rest : List Lexeme} :
      t.closing? = some name → dialect.isVoid name = true → IsMargin rest →
      IsMargin (.tag t :: rest)

/-- The root element that the lexemes of a document describe. -/
inductive IsDocument [Alphabet] : List Lexeme → Tree → Prop
  | mk {before l after : List Lexeme} {root : Tree} :
      IsMargin dialect before → IsElement dialect shapes l root → IsMargin dialect after →
      IsDocument (before ++ (l ++ after)) root

end Grammar

variable {dialect : Dialect} {shapes : List Shape}

/-! ## Joining derivations -/

theorem IsMargin.append {l m : List Lexeme} (hl : IsMargin dialect l) (hm : IsMargin dialect m) :
    IsMargin dialect (l ++ m) := by
  induction hl with
  | nil => exact hm
  | blank hr _ ih => exact .blank hr ih
  | void ht hv _ ih => exact .void ht hv ih

theorem IsChildren.append [Alphabet] {l m : List Lexeme} {cs ds : List (Child Tree Slot)}
    (hl : IsChildren dialect shapes l cs) (hm : IsChildren dialect shapes m ds) :
    IsChildren dialect shapes (l ++ m) (cs ++ ds) := by
  match hl with
  | .nil => exact hm
  | .element he hrest =>
    rw [List.append_assoc]
    exact .element he (hrest.append hm)
  | .void ht hv hrest => exact .void ht hv (hrest.append hm)
  | .blank hr hrest => exact .blank hr (hrest.append hm)
  | .splice hs hrest => exact .splice hs (hrest.append hm)

end MarkupTemplate
