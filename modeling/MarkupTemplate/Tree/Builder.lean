import MarkupTemplate.Tag.Dialect
import MarkupTemplate.Tag.Marked
import MarkupTemplate.Tree.Basic
import MarkupTemplate.Tree.Cutting

/-!
# Building the tree

The tags of a markup are taken in order. The builder holds the elements that are open, the innermost
first, and the root element once that is complete. An opening tag opens an element, or puts a
complete one in its place at once if the tag is void or closes itself. A closing tag completes the
innermost element.

Before each tag the run of text that leads to it finds its place. A run of white space has none. A
run that reads a slot bound to a list becomes a splice of that list, and its text is dropped. Any
other run is the whole content of an element, so it must stand right before the closing tag of an
element without children.

Of the values only the shapes matter here.

What a run says and what an opening tag says is a matter of its own, a `Reading`. In markup the
slots are symbols, and runs and tags have them. In a marked text runs and tags are text, and what is
read in them comes from the sites. `Tree.ofMarkup` and `Tree.ofMarked` build the same way on either.
-/

namespace MarkupTemplate

/-- An element that is open. -/
structure Frame where
  head : Head Span Interpolation
  content : Content Interpolation (Child Tree Slot)

namespace Frame

def close (f : Frame) : Tree := .mk f.head f.content

def push (f : Frame) (child : Child Tree Slot) : Frame :=
  { f with content := f.content.push child }

end Frame

/-- How runs and opening tags are read. -/
structure Reading where
  /-- The text of a run. -/
  run : Run → Interpolation
  /-- What an opening tag says, and whether it closes its element at once. -/
  tag : Tag → Except Misreading (OpeningTag × Bool)

namespace Reading

variable [Alphabet]

/-- Slots are symbols of the markup. -/
def ofSymbols : Reading where
  run r := .ofMarkup r.symbols
  tag t := OpeningTag.read t.span t.content

/-- Slots stand at sites of the text that runs and tags are cut from. -/
def ofSites (sites : List Site) : Reading where
  run r := .scan r.symbols.text (Site.within r.start (r.start + r.symbols.text.byteLength) sites)
  tag t := OpeningTag.readMarked sites t.span t.content.text

end Reading

/-- The state of building a tree. -/
structure Builder where
  /-- The open elements, the innermost first. -/
  stack : List Frame
  /-- The root element, if it is complete. -/
  root : Option Tree

namespace Builder

/-- Nothing is open and nothing complete. -/
def initial : Builder := ⟨[], none⟩

/-- The fault of a run that has no place. -/
def strayText (b : Builder) (run : Run) : Misreading :=
  ⟨.strayText (!b.stack.isEmpty), run.trimmedSpan⟩

/-- The first slot of a text that is bound to a list. -/
def splice? (shapes : List Shape) (text : Interpolation) : Option Slot :=
  text.reads.find? fun slot => shapes[slot.index]? = some .list

/-- Find the place of a run of text before a tag; `closing` says that the tag closes the innermost
element. -/
def placeBy (reading : Reading) (shapes : List Shape) (b : Builder) (run : Run) (closing : Bool) :
    Except Misreading Builder :=
  if run.isBlank then .ok b
  else
    let text := (reading.run run).normalized
    match b.stack, splice? shapes text with
    | [], _ => .error (b.strayText run)
    | frame :: below, some slot => .ok { b with stack := frame.push (.splice slot) :: below }
    | frame :: below, none =>
      if closing ∧ frame.content.isEmpty then
        .ok { b with stack := { frame with content := .text text } :: below }
      else .error (b.strayText run)

/-- Put a complete element in its place: among the children of the innermost open element, or at
the root. -/
def attach (b : Builder) (e : Tree) : Except Misreading Builder :=
  match b.stack with
  | frame :: below => .ok { b with stack := frame.push (.element e) :: below }
  | [] =>
    if b.root.isSome then .error ⟨.multipleRoots, e.head.origin⟩ else .ok { b with root := some e }

def openTagBy (reading : Reading) (dialect : Dialect) (b : Builder) (tag : Tag) :
    Except Misreading Builder := do
  let (opening, closed) ← reading.tag tag
  let frame : Frame :=
    ⟨⟨opening.name, opening.key, opening.attributes, tag.span⟩, .empty⟩
  if closed || dialect.isVoid opening.name then b.attach frame.close
  else if b.stack.isEmpty && b.root.isSome then throw ⟨.multipleRoots, tag.span⟩
  else return { b with stack := frame :: b.stack }

/-- Take a closing tag of a name. The closing tag of a void element is passed over. -/
def closeTagBy (reading : Reading) (dialect : Dialect) (shapes : List Shape) (b : Builder)
    (run : Run) (span : Span) (name : Text) : Except Misreading Builder :=
  match b.stack with
  | frame :: _ =>
    if frame.head.tag = name then do
      let b ← b.placeBy reading shapes run true
      match b.stack with
      | frame :: below => attach { b with stack := below } frame.close
      | [] => return b
    else if dialect.isVoid name then b.placeBy reading shapes run false
    else .error ⟨.mismatchedTag (some frame.head.tag), span⟩
  | [] =>
    if dialect.isVoid name then b.placeBy reading shapes run false
    else .error ⟨.mismatchedTag none, span⟩

def stepBy (reading : Reading) (dialect : Dialect) (shapes : List Shape) (b : Builder) :
    Run × Tag → Except Misreading Builder
  | (run, tag) =>
    match tag.content with
    | .char '/' :: name =>
      b.closeTagBy reading dialect shapes run tag.span
        (Text.trimEnd (Text.trimStart (Markup.text name)))
    | _ => do openTagBy reading dialect (← b.placeBy reading shapes run false) tag

/-- The root element, once everything is taken. -/
def finish (b : Builder) (length : Nat) : Ending → Except Misreading Tree
  | .unterminated span => .error ⟨.unterminatedTag, span⟩
  | .run run =>
    match b.stack with
    | frame :: _ => .error ⟨.unclosedTag frame.head.tag, frame.head.origin⟩
    | [] =>
      if run.isBlank then
        match b.root with
        | some root => .ok root
        | none => .error ⟨.missingRoot, ⟨0, length⟩⟩
      else .error (b.strayText run)

/-! ### Slots as symbols -/

variable [Alphabet]

def place (shapes : List Shape) (b : Builder) (run : Run) (closing : Bool) :
    Except Misreading Builder :=
  b.placeBy .ofSymbols shapes run closing

def openTag (dialect : Dialect) (b : Builder) (tag : Tag) : Except Misreading Builder :=
  b.openTagBy .ofSymbols dialect tag

def closeTag (dialect : Dialect) (shapes : List Shape) (b : Builder) (run : Run) (span : Span)
    (name : Text) : Except Misreading Builder :=
  b.closeTagBy .ofSymbols dialect shapes run span name

def step (dialect : Dialect) (shapes : List Shape) (b : Builder) :
    Run × Tag → Except Misreading Builder :=
  b.stepBy .ofSymbols dialect shapes

end Builder

namespace Tree

/-- The element that a cutting of a text of some length describes. -/
def ofCutting (reading : Reading) (dialect : Dialect) (shapes : List Shape) (length : Nat)
    (cutting : Cutting) : Except Misreading Tree := do
  let builder ← cutting.tags.foldlM (Builder.stepBy reading dialect shapes) .initial
  builder.finish length cutting.ending

variable [Alphabet]

/-- The element that a markup describes when its slots are bound to values of the given shapes. -/
def ofMarkup (dialect : Dialect) (shapes : List Shape) (m : Markup) : Except Misreading Tree :=
  ofCutting .ofSymbols dialect shapes m.byteLength (.ofMarkup 0 m)

/-- The element that a marked text describes. The text is cut as it is, tokens and all. -/
def ofMarked (dialect : Dialect) (shapes : List Shape) (source : MarkedText) :
    Except Misreading Tree :=
  ofCutting (.ofSites source.sites) dialect shapes source.text.byteLength
    (.ofMarkup 0 (Markup.ofText source.text))

end Tree

end MarkupTemplate
