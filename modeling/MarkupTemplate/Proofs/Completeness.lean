import Mathlib.Data.List.Chain
import MarkupTemplate.Proofs.Outcome
import MarkupTemplate.Proofs.Building

/-!
# The builder reads all documents

Every document of the grammar is accepted, and the element that the builder makes is the one that
the document describes.

The grammar takes runs and tags one at a time, while a step of the builder takes a run together with
the tag behind it. `Builder.feed` stands between the two: it takes lexemes one at a time and lets a
run wait for its tag. The induction is on the derivation. It needs to know that no two runs stand
side by side, since the second would push the first out; that is what `Alternates` says.
-/

namespace MarkupTemplate

variable {dialect : Dialect} {shapes : List Shape}

/-- No two runs stand side by side. -/
def Alternates (l : List Lexeme) : Prop := l.IsChain fun x y => x.isRun = false ∨ y.isRun = false

theorem Alternates.append {l m : List Lexeme} (h : Alternates (l ++ m)) :
    Alternates l ∧ Alternates m :=
  ⟨(List.isChain_append.mp h).1, (List.isChain_append.mp h).2.1⟩

theorem alternates_lexemes (tags : List (Run × Tag)) (last : Run) :
    Alternates (lexemes tags ++ [.run last]) := by
  induction tags with
  | nil => exact List.isChain_singleton _
  | cons pair tags ih =>
    obtain ⟨r, t⟩ := pair
    refine List.isChain_cons_cons.mpr ⟨.inr rfl, List.isChain_cons.mpr ⟨?_, ih⟩⟩
    intro y _
    exact .inl rfl

namespace Run

/-- No text at all. -/
def nothing : Run := ⟨0, []⟩

/-- The children that a run comes to, wherever it stands. -/
def children? (shapes : List Shape) (r : Run) : Option (List (Child Tree Slot)) :=
  if r.isBlank then some [] else (r.list? shapes).map fun slot => [.splice slot]

@[simp] theorem isBlank_nothing : nothing.isBlank = true := rfl

@[simp] theorem children?_nothing : nothing.children? shapes = some [] := rfl

theorem children?_of_isBlank {r : Run} (h : r.isBlank = true) : r.children? shapes = some [] := by
  rw [children?, if_pos h]

theorem children?_of_list? {r : Run} {slot : Slot} (h : r.list? shapes = some slot) :
    r.children? shapes = some [.splice slot] := by
  rw [children?, if_neg (by simp [Builder.isBlank_eq_false_of_list? h]), h]
  rfl

end Run

namespace Builder

section

variable [Alphabet]

theorem place_of_children? {head : Head Span Interpolation} {children : List (Child Tree Slot)}
    {below : List Frame} {root : Option Tree} {r : Run} {more : List (Child Tree Slot)}
    (h : r.children? shapes = some more) (closing : Bool) :
    place shapes ⟨⟨head, .nodes children⟩ :: below, root⟩ r closing
      = .ok ⟨⟨head, .nodes (children ++ more)⟩ :: below, root⟩ := by
  rw [Run.children?] at h
  split at h
  · next hr =>
    cases h
    rw [place_of_isBlank _ hr, List.append_nil]
  · obtain ⟨slot, hs, rfl⟩ := Option.map_eq_some_iff.mp h
    rw [place_of_list? hs]
    rfl

/-! ## Taking lexemes one at a time -/

/-- Take lexemes. A run waits for the tag behind it, and the one that waits at the end is left
over. -/
def feed (dialect : Dialect) (shapes : List Shape) :
    Builder → Run → List Lexeme → Except Misreading (Builder × Run)
  | b, waiting, [] => .ok (b, waiting)
  | b, _, .run r :: rest => feed dialect shapes b r rest
  | b, waiting, .tag t :: rest => do
    feed dialect shapes (← b.step dialect shapes (waiting, t)) .nothing rest

theorem feed_append (l m : List Lexeme) (b : Builder) (waiting : Run) :
    feed dialect shapes b waiting (l ++ m) = (do
      let (b, waiting) ← feed dialect shapes b waiting l
      feed dialect shapes b waiting m) := by
  induction l generalizing b waiting with
  | nil => rfl
  | cons x l ih =>
    cases x with
    | run r => exact ih b r
    | tag t =>
      simp only [List.cons_append, feed, ih, bind_assoc]

theorem feed_append_of_ok {l m : List Lexeme} {b b' : Builder} {waiting waiting' : Run}
    (h : feed dialect shapes b waiting l = .ok (b', waiting')) :
    feed dialect shapes b waiting (l ++ m) = feed dialect shapes b' waiting' m := by
  rw [feed_append, h]
  rfl

/-- Taking lexemes one at a time is taking every tag with its run. -/
theorem feed_lexemes (tags : List (Run × Tag)) (last : Run) (b : Builder) (waiting : Run) :
    feed dialect shapes b waiting (lexemes tags ++ [.run last])
      = (tags.foldlM (step dialect shapes) b).map (·, last) := by
  induction tags generalizing b waiting with
  | nil => rfl
  | cons pair tags ih =>
    obtain ⟨r, t⟩ := pair
    rw [lexemes_cons, List.cons_append, List.cons_append, feed, feed, List.foldlM_cons]
    cases hs : b.step dialect shapes (r, t) with
    | error e => rfl
    | ok b₁ => exact ih b₁ .nothing

theorem feed_tag {b b' : Builder} {waiting : Run} {t : Tag} {rest : List Lexeme}
    (h : b.step dialect shapes (waiting, t) = .ok b') :
    feed dialect shapes b waiting (.tag t :: rest) = feed dialect shapes b' .nothing rest := by
  rw [feed, h]
  rfl

/-! ## Single steps -/

theorem step_of_complete {b b' b'' : Builder} {r : Run} {t : Tag} {opening : OpeningTag}
    {closed : Bool} (ho : t.Opens opening closed)
    (hc : closed = true ∨ dialect.isVoid opening.name = true)
    (hp : place shapes b r false = .ok b')
    (ha : b'.attach (.mk (opening.head t.span) (.nodes [])) = .ok b'') :
    b.step dialect shapes (r, t) = .ok b'' := by
  rw [step_of_opening ho.1, hp]
  show b'.openTag dialect t = .ok b''
  rw [openTag_of_read ho.2, if_pos (by simpa using hc), ha]

theorem step_of_opens {b b' : Builder} {r : Run} {t : Tag} {opening : OpeningTag}
    (ho : t.Opens opening false) (hv : dialect.isVoid opening.name = false)
    (hp : place shapes b r false = .ok b')
    (hroot : (b'.stack.isEmpty && b'.root.isSome) = false) :
    b.step dialect shapes (r, t)
      = .ok ⟨⟨opening.head t.span, .nodes []⟩ :: b'.stack, b'.root⟩ := by
  rw [step_of_opening ho.1, hp]
  show b'.openTag dialect t = _
  rw [openTag_of_read ho.2, if_neg (by simp [hv]), if_neg (by simp [hroot])]

theorem step_of_closes {frame frame' : Frame} {below : List Frame} {root : Option Tree} {r : Run}
    {t : Tag} (ht : t.closing? = some frame.head.tag)
    (hp : place shapes ⟨frame :: below, root⟩ r true = .ok ⟨frame' :: below, root⟩) :
    step dialect shapes ⟨frame :: below, root⟩ (r, t)
      = attach ⟨below, root⟩ frame'.close := by
  rw [step_of_closing? ht, closeTag_cons, if_pos rfl, hp]
  rfl

/-- A void name is never that of the innermost frame, so its closing tag only ends a run. -/
theorem step_of_void {frame : Frame} {below : List Frame} {root : Option Tree} {r : Run} {t : Tag}
    {name : Text} (ht : t.closing? = some name) (hv : dialect.isVoid name = true)
    (hf : dialect.isVoid frame.head.tag = false) :
    step dialect shapes ⟨frame :: below, root⟩ (r, t)
      = place shapes ⟨frame :: below, root⟩ r false := by
  have hne : frame.head.tag ≠ name := by
    rintro rfl
    simp [hv] at hf
  rw [step_of_closing? ht, closeTag_cons, if_neg hne, if_pos hv]

end

/-- An element may be opened wherever it may be attached. -/
theorem root_of_attach {b b' : Builder} {e : Tree} (h : b.attach e = .ok b') :
    (b.stack.isEmpty && b.root.isSome) = false := by
  obtain ⟨stack, root⟩ := b
  cases stack with
  | cons frame below => rfl
  | nil =>
    cases root with
    | none => rfl
    | some e => cases h

/-! ## Derivations -/

/-- A run waits only where no run follows. -/
def Waits (waiting : Run) (l : List Lexeme) : Prop :=
  waiting = .nothing ∨ ∀ x ∈ l.head?, x.isRun = false

theorem Waits.eq_nothing {waiting r : Run} {rest : List Lexeme}
    (h : Waits waiting (.run r :: rest)) : waiting = .nothing := by
  rcases h with h | h
  · exact h
  · cases h (.run r) rfl

theorem waits_of_alternates {r : Run} {rest : List Lexeme} (h : Alternates (.run r :: rest)) :
    Waits r rest := by
  refine .inr fun x hx => ?_
  rcases (List.isChain_cons.mp h).1 x hx with hrun | hrun
  · cases hrun
  · exact hrun

variable [Alphabet]

mutual
/-- An element finds its place, behind the run that waits before it. -/
theorem feed_of_isElement {l : List Lexeme} {e : Tree} {b b' b'' : Builder} {waiting : Run} :
    IsElement dialect shapes l e → Alternates l → place shapes b waiting false = .ok b' →
      b'.attach e = .ok b'' → feed dialect shapes b waiting l = .ok (b'', .nothing)
  | .complete ho hc, _, hp, ha => feed_tag (step_of_complete ho hc hp ha)
  | @IsElement.enclosing _ _ _ t t' opening inside content ho hv hcontent ht, hl, hp, ha => by
    -- The frame that the opening tag puts on the stack is on top again when the closing tag comes.
    have hopen := step_of_opens ho hv hp (root_of_attach ha)
    have hinside : Alternates inside := (Alternates.append (l := [.tag t]) hl).2.append.1
    obtain ⟨children, waiting', hfeed, hplace⟩ :=
      feed_of_isContent (opening.head t.span) b'.stack b'.root hcontent hinside hv
    have hclose : step dialect shapes ⟨⟨opening.head t.span, .nodes children⟩ :: b'.stack, b'.root⟩
        (waiting', t') = b'.attach (.mk (opening.head t.span) content) :=
      step_of_closes ht hplace
    rw [feed_tag hopen, feed_append_of_ok hfeed]
    exact feed_tag (hclose.trans ha)

/-- Content goes into the innermost frame, once the run that is left over finds its place. -/
theorem feed_of_isContent (head : Head Span Interpolation) (below : List Frame)
    (root : Option Tree) {l : List Lexeme} {content : Content Interpolation (Child Tree Slot)} :
    IsContent dialect shapes l content → Alternates l → dialect.isVoid head.tag = false →
      ∃ children waiting,
        feed dialect shapes ⟨⟨head, .nodes []⟩ :: below, root⟩ .nothing l
          = .ok (⟨⟨head, .nodes children⟩ :: below, root⟩, waiting) ∧
        place shapes ⟨⟨head, .nodes children⟩ :: below, root⟩ waiting true
          = .ok ⟨⟨head, content⟩ :: below, root⟩
  | .children hchildren, hl, hv => by
    obtain ⟨children, waiting, wait, hfeed, hwait, hsum⟩ :=
      feed_of_isChildren head below root [] hchildren hl (.inl rfl) Run.children?_nothing hv
    refine ⟨children, waiting, hfeed, ?_⟩
    rw [place_of_children? hwait, hsum]
    rfl
  | @IsContent.text _ _ _ inside r hchildren hr hs, hl, hv => by
    obtain ⟨children, waiting, wait, hfeed, -, hsum⟩ :=
      feed_of_isChildren head below root [] hchildren hl.append.1 (.inl rfl)
        Run.children?_nothing hv
    -- The children come to nothing, so the frame is still empty when the text arrives.
    obtain rfl : children = [] := (List.append_eq_nil_iff.mp hsum).1
    refine ⟨[], r, ?_, place_of_text hr hs rfl⟩
    rw [feed_append_of_ok hfeed]
    rfl

/-- Children go into the innermost frame, all but those of the run that is left over. -/
theorem feed_of_isChildren (head : Head Span Interpolation) (below : List Frame)
    (root : Option Tree) (before : List (Child Tree Slot)) {l : List Lexeme}
    {children wait : List (Child Tree Slot)} {waiting : Run} :
    IsChildren dialect shapes l children → Alternates l → Waits waiting l →
      waiting.children? shapes = some wait → dialect.isVoid head.tag = false →
      ∃ before' waiting' wait',
        feed dialect shapes ⟨⟨head, .nodes before⟩ :: below, root⟩ waiting l
          = .ok (⟨⟨head, .nodes before'⟩ :: below, root⟩, waiting') ∧
        waiting'.children? shapes = some wait' ∧ before' ++ wait' = before ++ wait ++ children
  | .nil, _, _, hwait, _ => ⟨before, waiting, wait, rfl, hwait, by simp⟩
  | @IsChildren.element _ _ _ l rest e children he hrest, hl, _, hwait, hv => by
    have hfeed : feed dialect shapes ⟨⟨head, .nodes before⟩ :: below, root⟩ waiting l
        = .ok (⟨⟨head, .nodes (before ++ wait ++ [.element e])⟩ :: below, root⟩, .nothing) :=
      feed_of_isElement he hl.append.1 (place_of_children? hwait false) rfl
    obtain ⟨before', waiting', wait', hfeed', hwait', hsum⟩ :=
      feed_of_isChildren head below root (before ++ wait ++ [.element e]) hrest hl.append.2
        (.inl rfl) Run.children?_nothing hv
    refine ⟨before', waiting', wait', ?_, hwait', by simpa using hsum⟩
    rw [feed_append_of_ok hfeed]
    exact hfeed'
  | @IsChildren.void _ _ _ t name rest children ht hvoid hrest, hl, _, hwait, hv => by
    have hstep : step dialect shapes ⟨⟨head, .nodes before⟩ :: below, root⟩ (waiting, t)
        = .ok ⟨⟨head, .nodes (before ++ wait)⟩ :: below, root⟩ :=
      (step_of_void ht hvoid hv).trans (place_of_children? hwait false)
    obtain ⟨before', waiting', wait', hfeed', hwait', hsum⟩ :=
      feed_of_isChildren head below root (before ++ wait) hrest
        (Alternates.append (l := [.tag t]) hl).2 (.inl rfl) Run.children?_nothing hv
    refine ⟨before', waiting', wait', ?_, hwait', by simpa using hsum⟩
    rw [feed_tag hstep]
    exact hfeed'
  -- A run pushes out the one that waits, which is therefore no run at all.
  | @IsChildren.blank _ _ _ r rest children hr hrest, hl, hw, hwait, hv => by
    obtain rfl := hw.eq_nothing
    cases hwait
    obtain ⟨before', waiting', wait', hfeed', hwait', hsum⟩ :=
      feed_of_isChildren head below root before hrest (Alternates.append (l := [.run r]) hl).2
        (waits_of_alternates hl) (Run.children?_of_isBlank hr) hv
    exact ⟨before', waiting', wait', hfeed', hwait', hsum⟩
  | @IsChildren.splice _ _ _ r slot rest children hs hrest, hl, hw, hwait, hv => by
    obtain rfl := hw.eq_nothing
    cases hwait
    obtain ⟨before', waiting', wait', hfeed', hwait', hsum⟩ :=
      feed_of_isChildren head below root before hrest (Alternates.append (l := [.run r]) hl).2
        (waits_of_alternates hl) (Run.children?_of_list? hs) hv
    exact ⟨before', waiting', wait', hfeed', hwait', by simpa using hsum⟩
end

/-- A margin changes nothing, and leaves a blank run over. -/
theorem feed_of_isMargin (shapes : List Shape) (root : Option Tree) {l : List Lexeme}
    {waiting : Run} (h : IsMargin dialect l) (hw : waiting.isBlank = true) :
    ∃ waiting', feed dialect shapes ⟨[], root⟩ waiting l = .ok (⟨[], root⟩, waiting') ∧
      waiting'.isBlank = true := by
  induction h generalizing waiting with
  | nil => exact ⟨waiting, rfl, hw⟩
  | blank hr _ ih => exact ih hr
  | @void t name rest ht hv _ ih =>
    obtain ⟨waiting', hfeed, hblank⟩ := ih Run.isBlank_nothing
    have hstep : step dialect shapes ⟨[], root⟩ (waiting, t) = .ok ⟨[], root⟩ := by
      rw [step_of_closing? ht, closeTag_nil, if_pos hv, place_of_isBlank _ hw]
    exact ⟨waiting', (feed_tag hstep).trans hfeed, hblank⟩

/-- **Completeness.** The lexemes of a document are accepted, and the root is the element that they
describe. -/
theorem finish_of_isDocument {tags : List (Run × Tag)} {last : Run} {root : Tree}
    (h : IsDocument dialect shapes (lexemes tags ++ [.run last]) root) (length : Nat) :
    ∃ b, tags.foldlM (step dialect shapes) .initial = .ok b ∧
      b.finish length (.run last) = .ok root := by
  have halternates := alternates_lexemes tags last
  have hfold : feed dialect shapes .initial .nothing (lexemes tags ++ [.run last])
      = (tags.foldlM (step dialect shapes) .initial).map (·, last) :=
    feed_lexemes tags last .initial .nothing
  generalize lexemes tags ++ [.run last] = l at h halternates hfold
  cases h with
  | mk hbefore he hafter =>
    obtain ⟨waiting, hfeed, hblank⟩ := feed_of_isMargin shapes none hbefore Run.isBlank_nothing
    have helement : feed dialect shapes ⟨[], none⟩ waiting _ = .ok (⟨[], some root⟩, .nothing) :=
      feed_of_isElement he halternates.append.2.append.1 (place_of_isBlank _ hblank false) rfl
    obtain ⟨waiting', hfeed', hblank'⟩ :=
      feed_of_isMargin shapes (some root) hafter Run.isBlank_nothing
    have hall : feed dialect shapes .initial .nothing _ = .ok (⟨[], some root⟩, waiting') :=
      (feed_append_of_ok hfeed).trans ((feed_append_of_ok helement).trans hfeed')
    rw [hall] at hfold
    cases hb : tags.foldlM (step dialect shapes) .initial with
    | error e =>
      rw [hb] at hfold
      cases hfold
    | ok b =>
      rw [hb] at hfold
      cases hfold
      refine ⟨_, rfl, ?_⟩
      rw [finish]
      simp only [hblank', if_true]

end Builder

end MarkupTemplate
