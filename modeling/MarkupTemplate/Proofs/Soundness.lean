import MarkupTemplate.Proofs.Outcome
import MarkupTemplate.Proofs.Building

/-!
# The builder reads documents only

Whatever the builder accepts is a document of the grammar, and the element it builds is the one that
the document describes.

The builder never sees a document as a whole, so what is carried along a run of it is `Reads`: the
lexemes that were taken so far, as the stack shows them. Below the lowest frame stands a margin.
Every frame stands for an opening tag and the children that followed it, and what is in its content
is what the grammar gives those children.
-/

namespace MarkupTemplate

variable {dialect : Dialect} {shapes : List Shape}

/-- The lexemes that a state of the builder stands for. -/
inductive Reads [Alphabet] (dialect : Dialect) (shapes : List Shape) : List Lexeme → Builder → Prop
  | margin {l : List Lexeme} : IsMargin dialect l → Reads dialect shapes l ⟨[], none⟩
  | root {before l after : List Lexeme} {e : Tree} :
      IsMargin dialect before → IsElement dialect shapes l e → IsMargin dialect after →
      Reads dialect shapes (before ++ (l ++ after)) ⟨[], some e⟩
  | inside {l inner : List Lexeme} {stack : List Frame} {t : Tag} {opening : OpeningTag}
      {children : List (Child Tree Slot)} :
      Reads dialect shapes l ⟨stack, none⟩ → t.Opens opening false →
      dialect.isVoid opening.name = false → IsChildren dialect shapes inner children →
      Reads dialect shapes (l ++ .tag t :: inner)
        ⟨⟨opening.head t.span, .nodes children⟩ :: stack, none⟩

/-! ## What comes to nothing, and what is one more child -/

namespace Reads

variable [Alphabet]

/-- Lexemes that are both a margin and children without effect change no state. -/
theorem append_nothing {l m : List Lexeme} {b : Builder} (h : Reads dialect shapes l b)
    (hmargin : IsMargin dialect m) (hchildren : IsChildren dialect shapes m []) :
    Reads dialect shapes (l ++ m) b := by
  cases h with
  | margin hl => exact .margin (hl.append hmargin)
  | root hbefore he hafter =>
    rw [List.append_assoc, List.append_assoc]
    exact .root hbefore he (hafter.append hmargin)
  | inside hl ho hv hc =>
    rw [List.append_assoc, List.cons_append]
    have := hc.append hchildren
    rw [List.append_nil] at this
    exact .inside hl ho hv this

theorem append_blank {l : List Lexeme} {b : Builder} {r : Run} (h : Reads dialect shapes l b)
    (hr : r.isBlank = true) : Reads dialect shapes (l ++ [.run r]) b :=
  h.append_nothing (.blank hr .nil) (.blank hr .nil)

theorem append_void {l : List Lexeme} {b : Builder} {t : Tag} {name : Text}
    (h : Reads dialect shapes l b) (ht : t.closing? = some name)
    (hv : dialect.isVoid name = true) : Reads dialect shapes (l ++ [.tag t]) b :=
  h.append_nothing (.void ht hv .nil) (.void ht hv .nil)

/-- No open element is void, so the closing tag of a void element closes none. -/
theorem closeTag_of_isVoid {l : List Lexeme} {b : Builder} (h : Reads dialect shapes l b)
    {name : Text} (hv : dialect.isVoid name = true) (r : Run) (span : Span) :
    b.closeTag dialect shapes r span name = b.place shapes r false := by
  have hnil : ∀ root, Builder.closeTag dialect shapes ⟨[], root⟩ r span name
      = Builder.place shapes ⟨[], root⟩ r false := fun root => by
    rw [Builder.closeTag_nil, if_pos hv]
  cases h with
  | margin => exact hnil none
  | root => exact hnil _
  | @inside _ _ _ t opening _ _ _ hopening _ =>
    have hne : (opening.head t.span).tag ≠ name := by
      rintro rfl
      have hopening : dialect.isVoid (opening.head t.span).tag = false := hopening
      rw [hv] at hopening
      cases hopening
    rw [Builder.closeTag_cons, if_neg hne, if_pos hv]

/-- The innermost frame takes what its children come to. -/
theorem append_children {l m : List Lexeme} {frame : Frame} {below : List Frame}
    {root : Option Tree} {child : Child Tree Slot}
    (h : Reads dialect shapes l ⟨frame :: below, root⟩)
    (hm : IsChildren dialect shapes m [child]) :
    Reads dialect shapes (l ++ m) ⟨frame.push child :: below, root⟩ := by
  cases h with
  | inside hl ho hv hc =>
    rw [List.append_assoc, List.cons_append]
    exact .inside hl ho hv (hc.append hm)

/-- A run that finds its place before a tag that closes nothing. -/
theorem place {l : List Lexeme} {b b' : Builder} {r : Run} (h : Reads dialect shapes l b)
    (hp : Builder.place shapes b r false = .ok b') :
    Reads dialect shapes (l ++ [.run r]) b' := by
  cases Builder.place_eq_ok hp with
  | blank hr => exact h.append_blank hr
  | splice hstack hs =>
    obtain ⟨stack, root⟩ := b
    subst hstack
    exact h.append_children (.splice hs .nil)
  | text _ _ _ hclosing _ => cases hclosing

/-- A complete element that finds its place. -/
theorem attach {l m : List Lexeme} {b b' : Builder} {e : Tree} (h : Reads dialect shapes l b)
    (he : IsElement dialect shapes m e) (ha : b.attach e = .ok b') :
    Reads dialect shapes (l ++ m) b' := by
  obtain ⟨stack, root⟩ := b
  cases stack with
  | cons frame below =>
    cases ha
    have hm : IsChildren dialect shapes m [.element e] := by
      have := IsChildren.element he .nil
      rwa [List.append_nil] at this
    exact h.append_children hm
  | nil =>
    cases h with
    | margin hl =>
      cases ha
      have := Reads.root hl he .nil
      rwa [List.append_nil] at this
    | root => cases ha

/-! ## One tag -/

theorem openTag {l : List Lexeme} {b b' : Builder} {t : Tag} (h : Reads dialect shapes l b)
    (ht : t.closing? = none) (ho : b.openTag dialect t = .ok b') :
    Reads dialect shapes (l ++ [.tag t]) b' := by
  obtain ⟨⟨opening, closed⟩, hread, -⟩ := bind_eq_ok.mp ho
  rw [Builder.openTag_of_read hread] at ho
  split at ho
  · next hc =>
    exact h.attach (.complete ⟨ht, hread⟩ (by simpa using hc)) ho
  · next hc =>
    simp only [Bool.or_eq_true, not_or, Bool.not_eq_true] at hc
    obtain ⟨rfl, hvoid⟩ := hc
    split at ho
    · cases ho
    · next hroot =>
      cases ho
      obtain ⟨stack, root⟩ := b
      -- A frame is only put on a stack below which there is no root yet.
      obtain rfl : root = none := by
        cases h with
        | margin => rfl
        | root => simp at hroot
        | inside => rfl
      exact .inside h ⟨ht, hread⟩ hvoid .nil

/-- The closing tag of the innermost frame completes its element. -/
theorem close {l : List Lexeme} {frame : Frame} {below : List Frame} {root : Option Tree}
    {b₁ b' : Builder} {r : Run} {t : Tag}
    (h : Reads dialect shapes l ⟨frame :: below, root⟩) (ht : t.closing? = some frame.head.tag)
    (hp : Builder.place shapes ⟨frame :: below, root⟩ r true = .ok b₁)
    (hb : (match b₁.stack with
      | frame :: below => Builder.attach { b₁ with stack := below } frame.close
      | [] => .ok b₁) = .ok b') :
    Reads dialect shapes (l ++ [.run r, .tag t]) b' := by
  cases h with
  | @inside l inner _ t₀ opening children hl ho hv hc =>
    -- The content of the element, whichever way the last run went into it.
    have hcontent : ∃ content, IsContent dialect shapes (inner ++ [.run r]) content ∧
        b₁ = ⟨⟨opening.head t₀.span, content⟩ :: below, none⟩ := by
      cases Builder.place_eq_ok hp with
      | blank hr =>
        have := hc.append (.blank hr .nil)
        rw [List.append_nil] at this
        exact ⟨_, .children this, rfl⟩
      | splice hstack hs =>
        cases hstack
        exact ⟨_, .children (hc.append (.splice hs .nil)), rfl⟩
      | text hstack hr hs _ hempty =>
        cases hstack
        obtain rfl : children = [] := by simpa [Content.isEmpty] using hempty
        exact ⟨_, .text hc hr hs, rfl⟩
    obtain ⟨content, hcontent, rfl⟩ := hcontent
    have helement := IsElement.enclosing ho hv hcontent ht
    have hreads := hl.attach helement hb
    simpa [List.append_assoc] using hreads

theorem closeTag {l : List Lexeme} {b b' : Builder} {r : Run} {t : Tag} {name : Text}
    (h : Reads dialect shapes l b) (ht : t.closing? = some name)
    (hc : b.closeTag dialect shapes r t.span name = .ok b') :
    Reads dialect shapes (l ++ [.run r, .tag t]) b' := by
  have hvoid : dialect.isVoid name = true → b.place shapes r false = .ok b' →
      Reads dialect shapes (l ++ [.run r, .tag t]) b' := by
    intro hv hp
    have := (h.place hp).append_void ht hv
    rwa [List.append_assoc] at this
  -- A tag that closes no frame is that of a void name, and only ends the run before it.
  obtain ⟨stack, root⟩ := b
  cases stack with
  | nil =>
    rw [Builder.closeTag_nil] at hc
    split at hc
    · next hv => exact hvoid hv hc
    · cases hc
  | cons frame below =>
    rw [Builder.closeTag_cons] at hc
    split at hc
    · next hname =>
      subst hname
      obtain ⟨b₁, hp, hc⟩ := bind_eq_ok.mp hc
      exact h.close ht hp hc
    · split at hc
      · next hv => exact hvoid hv hc
      · cases hc

end Reads

/-! ## Steps and runs -/

namespace Builder

/-- **One step**: the builder takes a run and a tag, and still stands for what it took. -/
theorem reads_step [Alphabet] {l : List Lexeme} {b b' : Builder} {r : Run} {t : Tag}
    (h : Reads dialect shapes l b) (hs : b.step dialect shapes (r, t) = .ok b') :
    Reads dialect shapes (l ++ [.run r, .tag t]) b' := by
  cases ht : t.closing? with
  | some name =>
    rw [step_of_closing? ht] at hs
    exact h.closeTag ht hs
  | none =>
    rw [step_of_opening ht] at hs
    obtain ⟨b₁, hp, hs⟩ := bind_eq_ok.mp hs
    have := (h.place hp).openTag ht hs
    rwa [List.append_assoc] at this

/-- **A whole run**: the builder stands for all that it took. -/
theorem reads_foldlM [Alphabet] {tags : List (Run × Tag)} {l : List Lexeme} {b b' : Builder}
    (h : Reads dialect shapes l b) (hs : tags.foldlM (step dialect shapes) b = .ok b') :
    Reads dialect shapes (l ++ lexemes tags) b' := by
  induction tags generalizing l b with
  | nil =>
    cases hs
    simpa using h
  | cons pair tags ih =>
    obtain ⟨r, t⟩ := pair
    rw [List.foldlM_cons] at hs
    obtain ⟨b₁, hstep, hs⟩ := bind_eq_ok.mp hs
    have := ih (reads_step h hstep) hs
    rwa [List.append_assoc] at this

/-- At the end of the markup nothing is open, and the last run is blank. -/
theorem finish_eq_ok {b : Builder} {length : Nat} {ending : Ending} {root : Tree}
    (h : b.finish length ending = .ok root) :
    ∃ last, ending = .run last ∧ last.isBlank = true ∧ b = ⟨[], some root⟩ := by
  obtain ⟨stack, done⟩ := b
  cases ending with
  | unterminated span => cases h
  | run last =>
    cases stack with
    | cons frame below => cases h
    | nil =>
      simp only [finish] at h
      split at h
      · next hlast =>
        cases done with
        | none => cases h
        | some e =>
          cases h
          exact ⟨last, rfl, hlast, rfl⟩
      · cases h

end Builder

variable [Alphabet]

/-- A state with a root and without open elements stands for a document. -/
theorem Reads.isDocument {l : List Lexeme} {root : Tree}
    (h : Reads dialect shapes l ⟨[], some root⟩) : IsDocument dialect shapes l root := by
  cases h with
  | root hbefore he hafter => exact .mk hbefore he hafter

/-- **Soundness.** The element that the builder makes of runs and tags is the one that they describe
as a document. -/
theorem isDocument_of_finish {tags : List (Run × Tag)} {last : Run} {length : Nat} {b : Builder}
    {root : Tree} (hb : tags.foldlM (Builder.step dialect shapes) .initial = .ok b)
    (hroot : b.finish length (.run last) = .ok root) :
    IsDocument dialect shapes (lexemes tags ++ [.run last]) root := by
  obtain ⟨last', hlast, hblank, rfl⟩ := Builder.finish_eq_ok hroot
  cases hlast
  have hreads : Reads dialect shapes (lexemes tags) ⟨[], some root⟩ :=
    Builder.reads_foldlM (l := []) (.margin .nil) hb
  exact (hreads.append_blank hblank).isDocument

end MarkupTemplate
