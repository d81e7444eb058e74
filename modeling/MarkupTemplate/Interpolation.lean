import MarkupTemplate.Bindings
import MarkupTemplate.Json.Writer
import MarkupTemplate.Markup
import MarkupTemplate.Text.Blank

/-!
# Interpolated text

The value of an attribute, a key, and the text of an element are literal text with live reads of
slots in it. `scan` finds the reads in a text by the sites of their tokens. A site that does not
mark out a piece of what is left of the text is passed over, so any list of sites will do, and the
pieces always add up to the text. `ofMarkup` finds them in markup, which knows its slots.

Sites may come from anywhere, so an end of one may be too large for a word. `scanOn` is `scan` as a
machine runs it.

`symbols` forgets how the literal text is cut into pieces. `normalized` is the form that running
text takes as content: without line breaks, and without white space at its ends.
-/

namespace MarkupTemplate

/-- A part of an interpolated text. -/
inductive Piece where
  /-- Text that stands for itself. -/
  | literal (text : Text)
  /-- The value of a slot. -/
  | read (slot : Slot)
  deriving DecidableEq, Repr

namespace Piece

/-- The symbols of a piece. -/
def symbols : Piece → Markup
  | literal t => Markup.ofText t
  | read s => [.slot s]

/-- The slot that the piece reads. -/
def slot? : Piece → Option Slot
  | literal _ => none
  | read s => some s

/-- Change the text of a literal piece. -/
def mapLiteral (f : Text → Text) : Piece → Piece
  | literal t => literal (f t)
  | read s => read s

/-- Whether the piece is a literal without text. -/
def isEmpty : Piece → Bool
  | literal t => t.isEmpty
  | read _ => false

end Piece

/-- Literal text and reads, in order. -/
abbrev Interpolation := List Piece

namespace Interpolation

/-- Literal text and nothing else. The empty text has no pieces. -/
def ofText (t : Text) : Interpolation := if t = [] then [] else [.literal t]

/-- The pieces of a text from the byte `start` on, given its sites from there on. -/
def scanFrom (t : Text) : Nat → List Site → Interpolation
  | start, [] => ofText ((t.dropBytes? start).getD [])
  | start, site :: sites =>
    if site.offset < start ∨ t.slice? site.offset site.stop = none then scanFrom t start sites
    else
      ofText ((t.slice? start site.offset).getD []) ++ .read site.slot :: scanFrom t site.stop sites

/-- The pieces of a text whose tokens stand at the given sites. -/
def scan (t : Text) (sites : List Site) : Interpolation := scanFrom t 0 sites

/-- The pieces from the byte `start` on, as a machine finds them. -/
def scanFromOn (machine : Machine) (t : Text) : Nat → List Site → Option Interpolation
  | start, [] => some (ofText ((t.dropBytes? start).getD []))
  | start, site :: sites =>
    if site.offset < start then scanFromOn machine t start sites
    else do
      let stop ← site.stopOn? machine
      if t.slice? site.offset stop = none then scanFromOn machine t start sites
      else
        let rest ← scanFromOn machine t stop sites
        return ofText ((t.slice? start site.offset).getD []) ++ .read site.slot :: rest

/-- The pieces as a machine finds them. There are none if the program is stopped. -/
def scanOn (machine : Machine) (t : Text) (sites : List Site) : Option Interpolation :=
  scanFromOn machine t 0 sites

/-- Put a symbol in front: a character joins the literal text that it meets. -/
def cons : Symbol → Interpolation → Interpolation
  | .char c, .literal t :: rest => .literal (c :: t) :: rest
  | .char c, rest => .literal [c] :: rest
  | .slot s, rest => .read s :: rest

/-- The pieces of markup, with literal text as long as possible. -/
def ofMarkup (m : Markup) : Interpolation := m.foldr cons []

/-- The symbols of all pieces. -/
def symbols (i : Interpolation) : Markup := i.flatMap Piece.symbols

/-- The slots that are read, in order. -/
def reads (i : Interpolation) : List Slot := i.filterMap Piece.slot?

/-- Whether no slot is read. -/
def isStatic (i : Interpolation) : Bool := i.reads.isEmpty

/-- The text, if no slot is read. -/
def literal? : Interpolation → Option Text
  | [] => some []
  | .literal t :: rest => (literal? rest).map (t ++ ·)
  | .read _ :: _ => none

/-- The text that is left without any values: nothing, if a slot is read. -/
def literalText (i : Interpolation) : Text := i.literal?.getD []

/-! ### Normal form -/

/-- Whether a character ends a line. -/
def isLineBreak (c : Char) : Bool := c = '\r' || c = '\n'

/-- Change the first piece if it is literal. -/
def mapFirst (f : Text → Text) : Interpolation → Interpolation
  | [] => []
  | p :: rest => p.mapLiteral f :: rest

/-- Change the last piece if it is literal. -/
def mapLast (f : Text → Text) : Interpolation → Interpolation
  | [] => []
  | [p] => [p.mapLiteral f]
  | p :: rest => p :: mapLast f rest

/-- The content that running text stands for: line breaks are dropped, then the white space at both
ends, then literal pieces that have no text left. -/
def normalized (i : Interpolation) : Interpolation :=
  let unbroken := i.map (Piece.mapLiteral (·.filter (!isLineBreak ·)))
  let trimmed := mapLast Text.trimEnd (mapFirst Text.trimStart unbroken)
  trimmed.filter (!·.isEmpty)

/-- The content that a text with tokens at the given sites stands for, as a machine makes it. -/
def normalizedOn (machine : Machine) (t : Text) (sites : List Site) : Option Interpolation :=
  (scanOn machine t sites).map normalized

/-! ### Reading -/

/-- The text that results when every slot is replaced by what its value leaves in running text. -/
def resolve [NumberFormat] (b : Bindings) : Interpolation → Except Cause Text
  | [] => .ok []
  | .literal t :: rest => do return t ++ (← resolve b rest)
  | .read s :: rest => do
    let value ← b.read s
    return value.inline ++ (← resolve b rest)

/-! ### Pieces and symbols -/

@[simp] theorem symbols_nil : symbols [] = [] := rfl

@[simp] theorem symbols_cons (p : Piece) (i : Interpolation) :
    symbols (p :: i) = p.symbols ++ symbols i := rfl

/-- Putting a symbol in front puts it in front of the symbols. -/
theorem symbols_consSymbol (x : Symbol) (i : Interpolation) :
    symbols (cons x i) = x :: symbols i := by
  cases x with
  | slot s => rfl
  | char c =>
    cases i with
    | nil => rfl
    | cons p i => cases p <;> rfl

/-- Cutting markup into pieces loses nothing. -/
theorem symbols_ofMarkup (m : Markup) : symbols (ofMarkup m) = m := by
  induction m with
  | nil => rfl
  | cons x m ih =>
    show symbols (cons x (ofMarkup m)) = x :: m
    rw [symbols_consSymbol, ih]

end Interpolation

end MarkupTemplate
