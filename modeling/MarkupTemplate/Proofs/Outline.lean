import MarkupTemplate.Proofs.Outcome
import MarkupTemplate.Proofs.RunningText

/-!
# Reading without places

    markup ──read──▶ tree, or misreading
                      │ outline     │ cause
                      ▼             ▼
                     outline, or cause

Every element of a tree knows the span of its tag, and every misreading the span that shows it. The
*outline* of a markup is what is read without all of these: the element that it describes, or the
cause for which there is none. It depends on less than the markup. Of a run of text only the text
matters, of a tag only the content, and where they stand does not.

The proof follows two readings side by side. They *agree* if both of them give something, and the
things are related, or if both fail for the same cause. Builders are related if they have the same
outlines, and each thing that a builder can do keeps them so.
-/

namespace MarkupTemplate

/-- A parsed template without spans. -/
abbrev Outline := Element Unit Interpolation Slot

/-- A head without its origin. -/
def Head.unplaced {ι τ : Type} (head : Head ι τ) : Head Unit τ :=
  ⟨head.tag, head.key, head.attributes, ()⟩

namespace Tree

mutual
/-- An element without the spans of the tags in it. -/
def outline : Tree → Outline
  | .mk head (.text body) => .mk head.unplaced (.text body)
  | .mk head (.nodes children) => .mk head.unplaced (.nodes (outlines children))

def outlines : List (Child Tree Slot) → List (Child Outline Slot)
  | [] => []
  | .element e :: rest => .element (outline e) :: outlines rest
  | .splice slot :: rest => .splice slot :: outlines rest
end

/-- Content without the spans of the tags in it. -/
def outlineContent : Content Interpolation (Child Tree Slot) →
    Content Interpolation (Child Outline Slot)
  | .text body => .text body
  | .nodes children => .nodes (outlines children)

theorem outline_mk (head : Head Span Interpolation)
    (content : Content Interpolation (Child Tree Slot)) :
    outline (.mk head content) = .mk head.unplaced (outlineContent content) := by
  cases content <;> rfl

theorem outlines_append (l m : List (Child Tree Slot)) :
    outlines (l ++ m) = outlines l ++ outlines m := by
  induction l with
  | nil => rfl
  | cons child l ih => cases child <;> simp [outlines, ih]

/-- Appending a child appends its outline. -/
theorem outlineContent_push (content : Content Interpolation (Child Tree Slot))
    (child : Child Tree Slot) :
    outlineContent (content.push child)
      = .nodes ((outlineContent content).children ++ outlines [child]) := by
  cases content with
  | text body => rfl
  | nodes children => exact congrArg Content.nodes (outlines_append children [child])

theorem isEmpty_outlineContent (content : Content Interpolation (Child Tree Slot)) :
    (outlineContent content).isEmpty = content.isEmpty := by
  cases content with
  | text body => rfl
  | nodes children =>
    cases children with
    | nil => rfl
    | cons child rest => cases child <;> rfl

end Tree

/-- The outline that a markup describes when its slots are bound to values of the given shapes, or
the cause for which it describes none. -/
def Outline.ofMarkup [Alphabet] (dialect : Dialect) (shapes : List Shape) (m : Markup) :
    Except Cause Outline :=
  ((Tree.ofMarkup dialect shapes m).map Tree.outline).mapError Misreading.cause

/-! ## Readings that agree -/

section Agree

variable {α β γ δ : Type} {R : α → β → Prop} {S : γ → δ → Prop}

theorem mapError_bind {ε ζ : Type} (f : ε → ζ) (x : Except ε α) (g : α → Except ε β) :
    (x >>= g).mapError f = x.mapError f >>= fun a => (g a).mapError f := by
  cases x <;> rfl

/-- Whether two readings give related things, or fail for the same cause. -/
def Agree (R : α → β → Prop) (x : Except Misreading α) (y : Except Misreading β) : Prop :=
  Alike R (x.mapError Misreading.cause) (y.mapError Misreading.cause)

namespace Agree

variable {x : Except Misreading α} {y : Except Misreading β}

theorem ok {a : α} {b : β} (h : R a b) : Agree R (.ok a) (.ok b) := Alike.ok h

theorem error {e e' : Misreading} (h : e.cause = e'.cause) :
    Agree R (.error e) (.error e') := by
  show Alike R (.error e.cause) (.error e'.cause)
  rw [h]
  exact .error _

theorem ok_or_error (h : Agree R x y) : (∃ a b, x = .ok a ∧ y = .ok b ∧ R a b) ∨
    ∃ e e', x = .error e ∧ y = .error e' ∧ e.cause = e'.cause := by
  cases x with
  | ok a =>
    cases y with
    | ok b =>
      cases h with
      | ok hab => exact .inl ⟨a, b, rfl, rfl, hab⟩
    | error e' => cases h
  | error e =>
    cases y with
    | ok b => cases h
    | error e' =>
      have h : Alike R (.error e.cause) (.error e'.cause) := h
      refine .inr ⟨e, e', rfl, rfl, ?_⟩
      generalize e.cause = cause, e'.cause = cause' at h
      cases h with
      | error => rfl

theorem bind {f : α → Except Misreading γ} {g : β → Except Misreading δ} (h : Agree R x y)
    (hfg : ∀ a b, R a b → Agree S (f a) (g b)) : Agree S (x >>= f) (y >>= g) := by
  rw [Agree, mapError_bind, mapError_bind]
  exact Alike.bind h hfg

theorem map {f : α → γ} {g : β → δ} (h : Agree R x y) (hfg : ∀ a b, R a b → S (f a) (g b)) :
    Agree S (x.map f) (y.map g) := by
  have hbind := h.bind (f := fun a => .ok (f a)) (g := fun b => .ok (g b)) fun a b hab =>
    .ok (hfg a b hab)
  cases x <;> cases y <;> exact hbind

/-- A sequence of steps, each of which keeps things related. -/
theorem foldlM {f : α → γ → Except Misreading α} {g : β → δ → Except Misreading β}
    (hstep : ∀ a b c d, R a b → S c d → Agree R (f a c) (g b d)) {l : List γ} {l' : List δ}
    (hl : List.Forall₂ S l l') {a : α} {b : β} (hab : R a b) :
    Agree R (l.foldlM f a) (l'.foldlM g b) := by
  induction hl generalizing a b with
  | nil => exact .ok hab
  | cons hcd _ ih =>
    rw [List.foldlM_cons, List.foldlM_cons]
    exact (hstep a b _ _ hab hcd).bind fun a b hab => ih hab

end Agree

end Agree

/-- Trees that agree in their outlines have one outline. -/
theorem Agree.outline_eq {x y : Except Misreading Tree}
    (h : Agree (fun e e' => e.outline = e'.outline) x y) :
    (x.map Tree.outline).mapError Misreading.cause
      = (y.map Tree.outline).mapError Misreading.cause := by
  obtain ⟨e, e', rfl, rfl, he⟩ | ⟨e, e', rfl, rfl, he⟩ := h.ok_or_error
  · exact congrArg Except.ok he
  · exact congrArg Except.error he

/-! ## Opening tags -/

namespace Word

/-- Where a content begins does not matter for its words. -/
theorem split_agree (start start' : Nat) (m : Markup) :
    Agree (List.Forall₂ fun w w' => w.symbols = w'.symbols) (split start m) (split start' m) := by
  have hone : ∀ (symbols : Markup) (a b a' b' : Nat),
      List.Forall₂ (fun w w' => w.symbols = w'.symbols) (ofSymbols symbols a b)
        (ofSymbols symbols a' b') := by
    intro symbols a b a' b'
    rw [ofSymbols, ofSymbols]
    split
    · exact .nil
    · exact .cons rfl .nil
  fun_induction split start m generalizing start' with
  | case1 start m bare stop hdrop =>
    rw [split.eq_def start' m]
    split
    · exact .ok (hone _ _ _ _ _)
    · next hcons => simp [hdrop] at hcons
  | case2 start m bare stop x rest hdrop hquote ih =>
    rw [split.eq_def start' m]
    split
    · next hnil => simp [hdrop] at hnil
    · next y rest' hcons =>
      obtain ⟨rfl, rfl⟩ := List.cons.inj (hdrop.symm.trans hcons)
      rw [hquote]
      exact (ih _).map fun _ _ h => List.rel_append (hone _ _ _ _ _) h
  | case3 start m bare stop x rest hdrop quote hquote hdrop' =>
    rw [split.eq_def start' m]
    split
    · next hnil => simp [hdrop] at hnil
    · next y rest' hcons =>
      obtain ⟨rfl, rfl⟩ := List.cons.inj (hdrop.symm.trans hcons)
      rw [hquote]
      dsimp only
      split
      · exact .error rfl
      · next hcons' => simp [hdrop'] at hcons'
  | case4 start m bare stop x rest hdrop quote hquote quoted close rest' hdrop' stop' ih =>
    rw [split.eq_def start' m]
    split
    · next hnil => simp [hdrop] at hnil
    · next y rest'' hcons =>
      obtain ⟨rfl, rfl⟩ := List.cons.inj (hdrop.symm.trans hcons)
      rw [hquote]
      dsimp only
      split
      · next hnil => simp [hdrop'] at hnil
      · next z rest'' hcons' =>
        obtain ⟨rfl, rfl⟩ := List.cons.inj (hdrop'.symm.trans hcons')
        exact (ih _).map fun _ _ h => List.rel_append (hone _ _ _ _ _) h

end Word

namespace OpeningTag

variable [Alphabet]

theorem readWord_agree {word word' : Word} (h : word.symbols = word'.symbols) (tag : OpeningTag) :
    Agree Eq (tag.readWord word) (tag.readWord word') := by
  unfold readWord
  rw [h]
  dsimp only
  split
  · exact .ok rfl
  · exact .error rfl

theorem ofWords_agree {words words' : List Word}
    (h : List.Forall₂ (fun w w' => w.symbols = w'.symbols) words words') (start start' : Nat) :
    Agree Eq (ofWords start words) (ofWords start' words') := by
  cases h with
  | nil => exact .error rfl
  | cons hword hrest =>
    rw [ofWords, ofWords, hword]
    split
    · refine Agree.foldlM (fun tag tag' w w' htag hw => ?_) hrest rfl
      rw [htag]
      exact readWord_agree hw tag'
    · exact .error rfl

theorem ofContent_agree (start start' : Nat) (content : Markup) :
    Agree Eq (ofContent start content) (ofContent start' content) :=
  (Word.split_agree start start' content).bind fun _ _ h => ofWords_agree h start start'

/-- Of the content of a tag only that matters which is left without the white space around it and
without the slash. -/
theorem read_agree {content content' inner : Markup} {closed closed' : Bool}
    (h : splitSlash content.trimmed = (inner, closed))
    (h' : splitSlash content'.trimmed = (inner, closed')) (span span' : Span) :
    Agree (fun r r' => r.1 = r'.1 ∧ r.2 = closed ∧ r'.2 = closed') (read span content)
      (read span' content') := by
  have h : splitSlash (dropWhileEnd isBlankSymbol (content.dropWhile isBlankSymbol))
      = (inner, closed) := h
  have h' : splitSlash (dropWhileEnd isBlankSymbol (content'.dropWhile isBlankSymbol))
      = (inner, closed') := h'
  rw [read, read]
  simp only [h, h']
  split
  · exact (ofContent_agree _ _ inner).bind fun _ _ htag => .ok ⟨htag, rfl, rfl⟩
  · split
    · exact .ok ⟨rfl, rfl, rfl⟩
    · exact .error rfl

/-- Where a tag stands does not matter for what it says. -/
theorem read_agree_span (span span' : Span) (content : Markup) :
    Agree Eq (read span content) (read span' content) := by
  rcases h : splitSlash content.trimmed with ⟨inner, closed⟩
  refine Alike.mono (read_agree h h span span') ?_
  rintro r r' ⟨hopening, hclosed, hclosed'⟩
  exact Prod.ext hopening (hclosed.trans hclosed'.symm)

end OpeningTag

/-! ## Builders -/

/-- Whether two open elements have the same outline. -/
structure Frame.Similar (f f' : Frame) : Prop where
  head : f.head.unplaced = f'.head.unplaced
  content : Tree.outlineContent f.content = Tree.outlineContent f'.content

namespace Frame.Similar

variable {f f' : Frame}

theorem tag (h : f.Similar f') : f.head.tag = f'.head.tag :=
  congrArg (fun head : Head Unit Interpolation => head.tag) h.head

theorem isEmpty (h : f.Similar f') : f.content.isEmpty = f'.content.isEmpty := by
  rw [← Tree.isEmpty_outlineContent, h.content, Tree.isEmpty_outlineContent]

theorem close (h : f.Similar f') : f.close.outline = f'.close.outline := by
  rw [Frame.close, Tree.outline_mk, h.head, h.content, Frame.close, Tree.outline_mk]

theorem push (h : f.Similar f') {child child' : Child Tree Slot}
    (hchild : Tree.outlines [child] = Tree.outlines [child']) :
    (f.push child).Similar (f'.push child') where
  head := h.head
  content := by
    rw [Frame.push, Frame.push, Tree.outlineContent_push, Tree.outlineContent_push, h.content,
      hchild]

end Frame.Similar

namespace Builder

variable {dialect : Dialect} {shapes : List Shape} {b b' : Builder}

/-- Whether two builders have built the same, up to spans. -/
structure Similar (b b' : Builder) : Prop where
  stack : List.Forall₂ Frame.Similar b.stack b'.stack
  root : b.root.map Tree.outline = b'.root.map Tree.outline

theorem Similar.refl (b : Builder) : b.Similar b :=
  ⟨List.forall₂_same.mpr fun _ _ => ⟨rfl, rfl⟩, rfl⟩

theorem Similar.stack_isEmpty (h : b.Similar b') : b.stack.isEmpty = b'.stack.isEmpty := by
  rw [Bool.eq_iff_iff, List.isEmpty_iff_length_eq_zero, List.isEmpty_iff_length_eq_zero,
    h.stack.length_eq]

theorem Similar.root_isSome (h : b.Similar b') : b.root.isSome = b'.root.isSome := by
  rw [← Option.isSome_map, h.root, Option.isSome_map]

/-- Of a run only the text matters. -/
theorem place_agree [Alphabet] {r r' : Run} (h : b.Similar b') (hr : r.text = r'.text)
    (closing : Bool) :
    Agree Similar (b.place shapes r closing) (b'.place shapes r' closing) := by
  have hblank : r'.isBlank = r.isBlank := by
    rw [Bool.eq_iff_iff, Run.isBlank_iff_text, Run.isBlank_iff_text, hr]
  have hlist : r'.list? shapes = r.list? shapes := by rw [← splice?_text, ← splice?_text, hr]
  have hstray : (b.strayText r).cause = (b'.strayText r').cause := by
    show Cause.strayText _ = Cause.strayText _
    rw [h.stack_isEmpty]
  cases hrun : r.isBlank with
  | true =>
    rw [place_of_isBlank b hrun, place_of_isBlank b' (hblank.trans hrun)]
    exact .ok h
  | false =>
    obtain ⟨stack, root⟩ := b
    obtain ⟨stack', root'⟩ := b'
    obtain ⟨hstack, hroot⟩ := h
    cases hstack with
    | nil =>
      rw [place_of_stray hrun (by simp), place_of_stray (hblank.trans hrun) (by simp)]
      exact .error hstray
    | @cons frame frame' below below' hframe hbelow =>
      cases hslot : r.list? shapes with
      | some slot =>
        rw [place_of_list? hslot, place_of_list? (hlist.trans hslot)]
        exact .ok ⟨.cons (hframe.push rfl) hbelow, hroot⟩
      | none =>
        by_cases hc : closing = true ∧ frame.content.isEmpty = true
        · obtain ⟨rfl, hempty⟩ := hc
          rw [place_of_text hrun hslot hempty,
            place_of_text (hblank.trans hrun) (hlist.trans hslot) (hframe.isEmpty ▸ hempty), hr]
          exact .ok ⟨.cons ⟨hframe.head, rfl⟩ hbelow, hroot⟩
        · have hc : closing = false ∨ frame.content.isEmpty = false := by
            rw [← Bool.not_eq_true, ← Bool.not_eq_true]
            exact not_and_or.mp hc
          rw [place_of_stray hrun, place_of_stray (hblank.trans hrun)]
          · exact .error hstray
          · rintro _ ⟨⟩
            exact ⟨hlist.trans hslot, hframe.isEmpty ▸ hc⟩
          · rintro _ ⟨⟩
            exact ⟨hslot, hc⟩

theorem attach_agree {e e' : Tree} (h : b.Similar b') (he : e.outline = e'.outline) :
    Agree Similar (b.attach e) (b'.attach e') := by
  have hchild : Tree.outlines [.element e] = Tree.outlines [.element e'] := by
    simp [Tree.outlines, he]
  have hsome := h.root_isSome
  obtain ⟨stack, root⟩ := b
  obtain ⟨stack', root'⟩ := b'
  obtain ⟨hstack, hroot⟩ := h
  cases hstack with
  | nil =>
    simp only [attach, hsome]
    split
    · exact .error rfl
    · exact .ok ⟨.nil, congrArg some he⟩
  | cons hframe hbelow => exact .ok ⟨.cons (hframe.push hchild) hbelow, hroot⟩

variable [Alphabet]

/-- Of an opening tag only the content matters. -/
theorem openTag_agree {t t' : Tag} (h : b.Similar b') (ht : t.content = t'.content) :
    Agree Similar (b.openTag dialect t) (b'.openTag dialect t') := by
  have hread : Agree Eq (OpeningTag.read t.span t.content)
      (OpeningTag.read t'.span t'.content) := by
    rw [ht]
    exact OpeningTag.read_agree_span t.span t'.span t'.content
  refine hread.bind ?_
  rintro ⟨opening, closed⟩ _ rfl
  dsimp only
  split
  · exact attach_agree h (by simp [Frame.close, Tree.outline_mk, Head.unplaced])
  · rw [h.stack_isEmpty, h.root_isSome]
    split
    · exact .error rfl
    · exact .ok ⟨.cons ⟨rfl, rfl⟩ h.stack, h.root⟩

theorem closeTag_agree {r r' : Run} (h : b.Similar b') (hr : r.text = r'.text) (span span' : Span)
    (name : Text) : Agree Similar (b.closeTag dialect shapes r span name)
      (b'.closeTag dialect shapes r' span' name) := by
  have hclosing : Agree Similar (b.place shapes r true) (b'.place shapes r' true) :=
    place_agree h hr true
  have hvoid : Agree Similar (b.place shapes r false) (b'.place shapes r' false) :=
    place_agree h hr false
  obtain ⟨stack, root⟩ := b
  obtain ⟨stack', root'⟩ := b'
  obtain ⟨hstack, hroot⟩ := h
  cases hstack with
  | nil =>
    rw [closeTag_nil, closeTag_nil]
    split
    · exact hvoid
    · exact .error rfl
  | cons hframe hbelow =>
    rw [closeTag_cons, closeTag_cons, hframe.tag]
    split
    · refine hclosing.bind ?_
      rintro ⟨stack, root⟩ ⟨stack', root'⟩ ⟨hstack, hroot⟩
      cases hstack with
      | nil => exact .ok ⟨.nil, hroot⟩
      | cons hframe hbelow => exact attach_agree ⟨hbelow, hroot⟩ hframe.close
    · split
      · exact hvoid
      · exact .error rfl

/-- **One step**: the builder looks at the text of a run and at the content of a tag. -/
theorem step_agree {p p' : Run × Tag} (h : b.Similar b') (hr : p.1.text = p'.1.text)
    (ht : p.2.content = p'.2.content) :
    Agree Similar (b.step dialect shapes p) (b'.step dialect shapes p') := by
  obtain ⟨r, t⟩ := p
  obtain ⟨r', t'⟩ := p'
  have hclosing : t'.closing? = t.closing? := by
    have ht : t.content = t'.content := ht
    rw [Tag.closing?, Tag.closing?, ht]
  cases hname : t.closing? with
  | some name =>
    rw [step_of_closing? hname, step_of_closing? (hclosing.trans hname)]
    exact closeTag_agree h hr t.span t'.span name
  | none =>
    rw [step_of_opening hname, step_of_opening (hclosing.trans hname)]
    exact (place_agree h hr false).bind fun b b' h => openTag_agree h ht

end Builder

/-! ## Whole readings -/

/-- Whether two endings are the same, up to places. -/
inductive Ending.Similar : Ending → Ending → Prop
  | run {r r' : Run} : r.text = r'.text → Similar (.run r) (.run r')
  | unterminated (span span' : Span) : Similar (.unterminated span) (.unterminated span')

/-- Whether two cuttings have runs of the same text and tags of the same content. -/
structure Cutting.Similar (c c' : Cutting) : Prop where
  tags : List.Forall₂ (fun p p' => p.1.text = p'.1.text ∧ p.2.content = p'.2.content)
    c.tags c'.tags
  ending : c.ending.Similar c'.ending

namespace Builder

variable {dialect : Dialect} {shapes : List Shape} {b b' : Builder}

/-- Go on with a cutting to the end of the markup. -/
def readOn [Alphabet] (dialect : Dialect) (shapes : List Shape) (b : Builder) (c : Cutting)
    (length : Nat) :
    Except Misreading Tree := do
  let b ← c.tags.foldlM (step dialect shapes) b
  b.finish length c.ending

theorem finish_agree {ending ending' : Ending} (h : b.Similar b')
    (hending : ending.Similar ending') (length length' : Nat) :
    Agree (fun e e' => e.outline = e'.outline) (b.finish length ending)
      (b'.finish length' ending') := by
  cases hending with
  | unterminated => exact .error rfl
  | @run r r' hr =>
    have hblank : r.isBlank = r'.isBlank := by
      rw [Bool.eq_iff_iff, Run.isBlank_iff_text, Run.isBlank_iff_text, hr]
    obtain ⟨stack, root⟩ := b
    obtain ⟨stack', root'⟩ := b'
    obtain ⟨hstack, hroot⟩ := h
    cases hstack with
    | cons hframe _ => exact .error (congrArg Cause.unclosedTag hframe.tag)
    | nil =>
      simp only [finish, hblank]
      split
      · cases root with
        | none =>
          obtain rfl : root' = none := by simpa using hroot.symm
          exact .error rfl
        | some e =>
          obtain ⟨e', rfl, he⟩ := Option.map_eq_some_iff.mp hroot.symm
          exact .ok he.symm
      · exact .error rfl

/-- **A whole run**: similar builders read the same from similar cuttings. -/
theorem readOn_agree [Alphabet] {c c' : Cutting} (h : b.Similar b') (hc : c.Similar c')
    (length length' : Nat) :
    Agree (fun e e' => e.outline = e'.outline) (b.readOn dialect shapes c length)
      (b'.readOn dialect shapes c' length') := by
  have hstep : ∀ (b b' : Builder) (p p' : Run × Tag), b.Similar b' →
      p.1.text = p'.1.text ∧ p.2.content = p'.2.content →
      Agree Similar (b.step dialect shapes p) (b'.step dialect shapes p') :=
    fun b b' p p' h hp => step_agree h hp.1 hp.2
  exact (Agree.foldlM hstep hc.tags h).bind fun b b' h => finish_agree h hc.ending length length'

end Builder

theorem Tree.ofMarkup_eq_readOn [Alphabet] (dialect : Dialect) (shapes : List Shape) (m : Markup) :
    ofMarkup dialect shapes m
      = Builder.initial.readOn dialect shapes (Cutting.ofMarkup 0 m) m.byteLength := rfl

end MarkupTemplate
