import MarkupTemplate.Fault.Cause
import MarkupTemplate.Machine

/-!
# Markup

Markup is a sequence of symbols: characters, and slots where values will stand. It is assembled from
the fragments of a template with one slot between each two of them.

Two views of a markup matter to others. Its *text* has the token of a slot in the place of the slot;
keys are made of it and faults point into it. Its *sites* are the byte offsets of the tokens in that
text. Together they say which dollar signs are slots and which are just text.

The two views are all that is left of markup when it is read: a `MarkedText`. `Site.at?` and
`Site.within` look up the sites that matter for a place or for a stretch of the text.
-/

namespace MarkupTemplate

/-- A character of markup, or a slot. -/
inductive Symbol where
  | char (c : Char)
  | slot (s : Slot)
  deriving DecidableEq, Repr

namespace Symbol

/-- The written form of a symbol. -/
def text : Symbol → Text
  | char c => [c]
  | slot s => s.token

/-- The length of the written form in bytes. -/
def byteLength (x : Symbol) : Nat := x.text.byteLength

/-- Whether the symbol is the given character. -/
def isChar (c : Char) (x : Symbol) : Bool := x = char c

/-- Whether the symbol is a character with a property. -/
def isCharWith (p : Char → Bool) : Symbol → Bool
  | char c => p c
  | slot _ => false

/-- The slot that the symbol is. -/
def slot? : Symbol → Option Slot
  | char _ => none
  | slot s => some s

@[simp] theorem isCharWith_char (p : Char → Bool) (c : Char) : isCharWith p (char c) = p c := rfl

@[simp] theorem isCharWith_slot (p : Char → Bool) (s : Slot) : isCharWith p (slot s) = false := rfl

end Symbol

/-- The place of a token in a text. -/
structure Site where
  offset : Nat
  slot : Slot
  deriving DecidableEq, Repr

namespace Site

/-- The byte offset just past the token, as an exact number. -/
def stop (site : Site) : Nat := site.offset + site.slot.token.byteLength

/-- The byte offset just past the token as a machine adds it up. -/
def stopOn? (machine : Machine) (site : Site) : Option Nat :=
  machine.add? site.offset site.slot.token.byteLength

/-- The site in what is left of the text from an offset on. -/
def rebase (start : Nat) (site : Site) : Site := ⟨site.offset - start, site.slot⟩

/-- The slot of the site at an offset. The search halves the sites, so they must be in order. -/
def at? (offset : Nat) (sites : List Site) : Option Slot :=
  match _h : sites.drop (sites.length / 2) with
  | [] => none
  | site :: above =>
    if site.offset = offset then some site.slot
    else if site.offset < offset then at? offset above
    else at? offset (sites.take (sites.length / 2))
termination_by sites.length
decreasing_by
  all_goals
    have hlength := congrArg List.length _h
    simp at hlength ⊢
    omega

/-- The sites of the tokens that lie between two offsets, in the stretch between them. -/
def within (start stop : Nat) (sites : List Site) : List Site :=
  (sites.filter fun site => start ≤ site.offset ∧ site.stop ≤ stop).map (rebase start)

end Site

/-- A text, and the sites of the tokens in it. -/
structure MarkedText where
  text : Text
  sites : List Site
  deriving DecidableEq, Repr

/-- A sequence of symbols. -/
abbrev Markup := List Symbol

namespace Markup

/-- The written form. -/
def text (m : Markup) : Text := m.flatMap Symbol.text

/-- The length of the written form in bytes. -/
def byteLength : Markup → Nat
  | [] => 0
  | x :: m => x.byteLength + byteLength m

/-- The sites of the slots when the written form begins at an offset. -/
def sitesFrom : Nat → Markup → List Site
  | _, [] => []
  | offset, .char c :: m => sitesFrom (offset + c.utf8Size) m
  | offset, .slot s :: m => ⟨offset, s⟩ :: sitesFrom (offset + s.token.byteLength) m

/-- The sites of the slots. -/
def sites (m : Markup) : List Site := sitesFrom 0 m

/-- The written form with the sites of the slots. -/
def marked (m : Markup) : MarkedText := ⟨m.text, m.sites⟩

/-- The slots, in order. -/
def slots (m : Markup) : List Slot := m.filterMap Symbol.slot?

/-- A text as markup without slots. -/
def ofText (t : Text) : Markup := t.map .char

/-- The characters of markup, if it has no slots. -/
def plain? : Markup → Option Text
  | [] => some []
  | .char c :: m => (plain? m).map (c :: ·)
  | .slot _ :: _ => none

/-- Fragments with a slot between each two of them, beginning with the slot of an index. -/
def interleave : Nat → List Text → Markup
  | _, [] => []
  | _, [fragment] => ofText fragment
  | index, fragment :: rest =>
    ofText fragment ++ ((Slot.ofIndex? index).map .slot).toList ++ interleave (index + 1) rest

/-- The markup of a template with the given fragments and number of values. -/
def assemble (fragments : List Text) (values : Nat) : Except Cause Markup :=
  if poolSize < values then .error (.tooManyValues values)
  else if fragments.length ≠ values + 1 then .error (.fragmentMismatch fragments.length values)
  else .ok (interleave 0 fragments)

/-! ### The views of joined markup -/

@[simp] theorem text_nil : text [] = [] := rfl

@[simp] theorem text_cons (x : Symbol) (m : Markup) : text (x :: m) = x.text ++ text m := rfl

@[simp] theorem text_append (m n : Markup) : text (m ++ n) = text m ++ text n := by
  simp [text]

@[simp] theorem text_ofText (t : Text) : text (ofText t) = t := by
  induction t with
  | nil => rfl
  | cons c t ih => simpa [ofText, Symbol.text] using ih

@[simp] theorem byteLength_nil : byteLength [] = 0 := rfl

@[simp] theorem byteLength_cons (x : Symbol) (m : Markup) :
    byteLength (x :: m) = x.byteLength + byteLength m := rfl

/-- The length of markup is that of its text. -/
theorem byteLength_text (m : Markup) : m.text.byteLength = m.byteLength := by
  induction m with
  | nil => rfl
  | cons x m ih => simp [ih, Symbol.byteLength]

@[simp] theorem byteLength_append (m n : Markup) :
    byteLength (m ++ n) = byteLength m + byteLength n := by
  induction m with
  | nil => simp
  | cons x m ih => simp [ih, Nat.add_assoc]

theorem sitesFrom_append (offset : Nat) (m n : Markup) :
    sitesFrom offset (m ++ n) = sitesFrom offset m ++ sitesFrom (offset + byteLength m) n := by
  induction m generalizing offset with
  | nil => simp [sitesFrom]
  | cons x m ih =>
    cases x <;> simp [sitesFrom, ih, Symbol.byteLength, Symbol.text, Nat.add_assoc]

@[simp] theorem slots_nil : slots [] = [] := rfl

@[simp] theorem slots_char_cons (c : Char) (m : Markup) : slots (.char c :: m) = slots m := rfl

@[simp] theorem slots_slot_cons (s : Slot) (m : Markup) :
    slots (.slot s :: m) = s :: slots m := rfl

@[simp] theorem slots_append (m n : Markup) : slots (m ++ n) = slots m ++ slots n :=
  List.filterMap_append

@[simp] theorem slots_ofText (t : Text) : slots (ofText t) = [] := by
  induction t with
  | nil => rfl
  | cons c t ih => exact ih

theorem mem_slots {m : Markup} {s : Slot} : s ∈ m.slots ↔ .slot s ∈ m := by
  induction m with
  | nil => simp
  | cons x m ih => cases x <;> simp [ih]

end Markup

end MarkupTemplate
