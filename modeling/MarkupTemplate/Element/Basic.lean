import MarkupTemplate.Attributes

/-!
# Elements

An element has a tag, perhaps a key, attributes, and content: either one text, or a list of children
that are elements and splices. A parsed template and what is rendered from it are both trees of
elements. They differ in their leaves: a parsed template has interpolated text where a rendered one
has text, and slots where a rendered one has lists. So the type of elements takes the leaves as
parameters: `τ` for text, `σ` for what is spliced in, and `ι` for what is noted about the origin of
an element.

`traverse` replaces the leaves one after the other, in the order key, attributes, content, by
actions that may fail.
-/

namespace MarkupTemplate

/-! ### Parts of an element -/

/-- The content of an element: a text, or children. -/
inductive Content (τ γ : Type) where
  | text (body : τ)
  | nodes (children : List γ)
  deriving DecidableEq, Repr

namespace Content

variable {τ γ : Type}

def empty : Content τ γ := nodes []

/-- Append a child. Text gives way to it. -/
def push (content : Content τ γ) (child : γ) : Content τ γ :=
  match content with
  | text _ => nodes [child]
  | nodes children => nodes (children ++ [child])

/-- The children; a text has none. -/
def children : Content τ γ → List γ
  | text _ => []
  | nodes children => children

/-- Whether there is neither text nor a child. -/
def isEmpty {α : Type} : Content (List α) γ → Bool
  | text body => body.isEmpty
  | nodes children => children.isEmpty

@[simp] theorem push_text (body : τ) (child : γ) : (text body).push child = nodes [child] := rfl

@[simp] theorem push_nodes (children : List γ) (child : γ) :
    (nodes children : Content τ γ).push child = nodes (children ++ [child]) := rfl

end Content

/-- An entry in the children of an element. -/
inductive Child (ε σ : Type) where
  | element (element : ε)
  | splice (list : σ)
  deriving DecidableEq, Repr

/-- The element of a child that is not a splice. -/
def Child.element? {ε σ : Type} : Child ε σ → Option ε
  | element e => some e
  | splice _ => none

/-- An element apart from its content. -/
structure Head (ι τ : Type) where
  tag : Text
  key : Option τ
  attributes : Attributes τ
  origin : ι
  deriving DecidableEq, Repr

inductive Element (ι τ σ : Type) where
  | mk (head : Head ι τ) (content : Content τ (Child (Element ι τ σ) σ))

namespace Element

variable {ι κ τ υ σ ρ : Type}

def head : Element ι τ σ → Head ι τ
  | mk head _ => head

def content : Element ι τ σ → Content τ (Child (Element ι τ σ) σ)
  | mk _ content => content

@[simp] theorem head_mk (head : Head ι τ) (content : Content τ (Child (Element ι τ σ) σ)) :
    (mk head content).head = head := rfl

@[simp] theorem content_mk (head : Head ι τ) (content : Content τ (Child (Element ι τ σ) σ)) :
    (mk head content).content = content := rfl

/-! ### Replacing the leaves -/

section Traverse

variable {m : Type → Type} [Monad m]

/-- Replace the texts of named values, in order. A name that comes twice keeps its first place and
its last value. -/
def traverseEntries (text : τ → m υ) (entries : List (Text × τ)) : m (Attributes υ) := do
  let values ← entries.mapM fun entry => do return (entry.1, ← text entry.2)
  return Attributes.ofList values

/-- Replace the texts of a head, the key before the attributes. -/
def traverseHead (text : τ → m υ) (origin : ι → κ) (head : Head ι τ) : m (Head κ υ) := do
  let key ← head.key.mapM text
  let attributes ← traverseEntries text head.attributes.entries
  return { tag := head.tag, key, attributes, origin := origin head.origin }

mutual
/-- Replace the leaves of an element: the key, the attributes in order, then the content. -/
def traverse (text : τ → m υ) (splice : σ → m ρ) (origin : ι → κ) :
    Element ι τ σ → m (Element κ υ ρ)
  | mk head (.text body) => do
    let head ← traverseHead text origin head
    return mk head (.text (← text body))
  | mk head (.nodes children) => do
    let head ← traverseHead text origin head
    return mk head (.nodes (← traverseChildren text splice origin children))

def traverseChildren (text : τ → m υ) (splice : σ → m ρ) (origin : ι → κ) :
    List (Child (Element ι τ σ) σ) → m (List (Child (Element κ υ ρ) ρ))
  | [] => return []
  | .element e :: rest => do
    let e ← traverse text splice origin e
    return .element e :: (← traverseChildren text splice origin rest)
  | .splice list :: rest => do
    let list ← splice list
    return .splice list :: (← traverseChildren text splice origin rest)
end

end Traverse

end Element

end MarkupTemplate
