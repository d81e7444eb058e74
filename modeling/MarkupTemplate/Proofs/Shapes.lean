import Mathlib.Data.List.Find
import MarkupTemplate.Libraries
import MarkupTemplate.Proofs.Documents
import MarkupTemplate.Proofs.Rendering
import MarkupTemplate.Proofs.Skeleton

/-!
# What a template depends on of its values

    fragments ──assemble──▶ markup ──read──▶ tree ──evaluate──▶ element
                              ▲               ▲        ▲
                            size         child shapes  values

A value has no say in the structure of what is rendered. How markup is read depends on the shapes of
the values that stand in *child text*, the text inside of an element; `Tree.ofMarkup_congr` says so.
What the tree is evaluated to has the skeleton of the tree. `Engine.render_alike` puts the two
together for two renders of the same fragments, whatever the values hold.
-/

namespace MarkupTemplate

variable {dialect : Dialect} {shapes shapes₁ shapes₂ : List Shape}

/-! ## Child text -/

/-- The runs that the builder meets inside of an element, as far as it can go. -/
def Builder.childRuns [Alphabet] (dialect : Dialect) (shapes : List Shape) :
    Builder → List (Run × Tag) → List Run
  | _, [] => []
  | b, (r, t) :: rest =>
    (if b.stack.isEmpty then [] else [r]) ++
      match b.step dialect shapes (r, t) with
      | .ok b' => childRuns dialect shapes b' rest
      | .error _ => []

/-- The slots in the child text of a markup, as far as it can be read. -/
def Tree.childSlots [Alphabet] (dialect : Dialect) (shapes : List Shape) (m : Markup) : List Slot :=
  (Builder.initial.childRuns dialect shapes (Cutting.ofMarkup 0 m).tags).flatMap Run.slots

/-! ## Reading for other shapes -/

theorem Run.list?_congr {r : Run}
    (h : ∀ slot ∈ r.slots, shapes₁[slot.index]? = shapes₂[slot.index]?) :
    r.list? shapes₁ = r.list? shapes₂ := by
  apply List.find?_congr
  intro slot hslot
  rw [h slot hslot]

namespace Builder

variable [Alphabet]

theorem place_congr {b : Builder} {r : Run}
    (h : b.stack ≠ [] → r.list? shapes₁ = r.list? shapes₂) (closing : Bool) :
    place shapes₁ b r closing = place shapes₂ b r closing := by
  obtain ⟨stack, root⟩ := b
  cases stack with
  -- Outside of every element a run has no place, whatever its slots are bound to.
  | nil => rfl
  | cons frame below =>
    have hs : splice? shapes₁ r.text = splice? shapes₂ r.text := by
      calc
        splice? shapes₁ r.text = r.list? shapes₁ := splice?_text shapes₁ r
        _ = r.list? shapes₂ := h (List.cons_ne_nil _ _)
        _ = splice? shapes₂ r.text := (splice?_text shapes₂ r).symm
    rw [place_eq, place_eq, hs]

theorem closeTag_congr {b : Builder} {r : Run}
    (h : b.stack ≠ [] → r.list? shapes₁ = r.list? shapes₂) (span : Span) (name : Text) :
    b.closeTag dialect shapes₁ r span name = b.closeTag dialect shapes₂ r span name := by
  obtain ⟨stack, root⟩ := b
  cases stack with
  | nil => rw [closeTag_nil, closeTag_nil, place_congr h]
  | cons frame below => rw [closeTag_cons, closeTag_cons, place_congr h, place_congr h]

theorem step_congr {b : Builder} {r : Run} {t : Tag}
    (h : b.stack ≠ [] → r.list? shapes₁ = r.list? shapes₂) :
    b.step dialect shapes₁ (r, t) = b.step dialect shapes₂ (r, t) := by
  cases ht : t.closing? with
  | some name => rw [step_of_closing? ht, step_of_closing? ht, closeTag_congr h]
  | none => rw [step_of_opening ht, step_of_opening ht, place_congr h]

/-- The builder goes the same way if the slots in child text are bound to values of the same
shapes. -/
theorem foldlM_congr {tags : List (Run × Tag)} {b : Builder}
    (h : ∀ r ∈ b.childRuns dialect shapes₁ tags, ∀ slot ∈ r.slots,
      shapes₁[slot.index]? = shapes₂[slot.index]?) :
    tags.foldlM (step dialect shapes₁) b = tags.foldlM (step dialect shapes₂) b := by
  induction tags generalizing b with
  | nil => rfl
  | cons pair tags ih =>
    obtain ⟨r, t⟩ := pair
    have hstep : b.step dialect shapes₁ (r, t) = b.step dialect shapes₂ (r, t) := by
      apply step_congr
      intro hstack
      apply Run.list?_congr
      apply h r
      rw [childRuns, if_neg (by simpa using hstack)]
      exact List.mem_append_left _ List.mem_cons_self
    rw [List.foldlM_cons, List.foldlM_cons, ← hstep]
    cases hb : b.step dialect shapes₁ (r, t) with
    | error e => rfl
    | ok b' =>
      -- Both go on from the same state.
      apply ih
      intro r' hr'
      apply h r'
      rw [childRuns, hb]
      exact List.mem_append_right _ hr'

end Builder

/-- **How markup is read depends on the shapes in child text only.** -/
theorem Tree.ofMarkup_congr [Alphabet] {m : Markup}
    (h : ∀ slot ∈ childSlots dialect shapes₁ m, shapes₁[slot.index]? = shapes₂[slot.index]?) :
    ofMarkup dialect shapes₁ m = ofMarkup dialect shapes₂ m := by
  have hfold := @Builder.foldlM_congr dialect shapes₁ shapes₂ _ (Cutting.ofMarkup 0 m).tags .initial
    fun r hr slot hslot => h slot (List.mem_flatMap.mpr ⟨r, hr, hslot⟩)
  rw [ofMarkup_eq, ofMarkup_eq, hfold]

/-! ## Splices are bound to lists -/

theorem Run.shape_of_list? {r : Run} {slot : Slot} (h : r.list? shapes = some slot) :
    shapes[slot.index]? = some .list := by
  simpa using List.find?_some h

section

variable [Alphabet]

mutual
theorem IsElement.shape_of_mem {l : List Lexeme} {e : Tree} :
    IsElement dialect shapes l e → ∀ slot ∈ e.splices, shapes[slot.index]? = some .list
  | .complete _ _, _, h => by cases h
  | .enclosing _ _ (.children hchildren) _, slot, h => hchildren.shape_of_mem slot h
  | .enclosing _ _ (.text _ _ _) _, _, h => by cases h

theorem IsChildren.shape_of_mem {l : List Lexeme} {children : List (Child Tree Slot)} :
    IsChildren dialect shapes l children →
      ∀ slot ∈ Element.splicesOf children, shapes[slot.index]? = some .list
  | .nil, _, h => by cases h
  | .element he hrest, slot, h => by
    rcases List.mem_append.mp h with h | h
    · exact he.shape_of_mem slot h
    · exact hrest.shape_of_mem slot h
  | .void _ _ hrest, slot, h => hrest.shape_of_mem slot h
  | .blank _ hrest, slot, h => hrest.shape_of_mem slot h
  | .splice hs hrest, slot, h => by
    rcases List.mem_cons.mp h with rfl | h
    · exact Run.shape_of_list? hs
    · exact hrest.shape_of_mem slot h
end

/-- What is spliced into an element that was read from markup is bound to a list. -/
theorem Tree.shape?_of_ofMarkup {m : Markup} {tree : Tree} {b : Bindings}
    (h : ofMarkup dialect b.shapes m = .ok tree) :
    ∀ slot ∈ tree.splices, b.shape? slot = some .list := by
  intro slot hslot
  obtain ⟨l, -, hdocument⟩ := ofMarkup_eq_ok h
  cases hdocument with
  | mk _ he _ =>
    rw [Bindings.shape?_eq]
    exact he.shape_of_mem slot hslot

/-! ## Two renders -/

/-- What two renders of the same fragments have in common: they fail in the same way, or they give
elements of the same skeleton, that of the template, with the lists that were bound. -/
inductive RenderAlike (dialect : Dialect) (fragments : List Text) (b₁ b₂ : Bindings) :
    Except Fault Rendered → Except Fault Rendered → Prop
  | failed {f₁ f₂ : Fault} :
      f₁.kind = f₂.kind → f₁.reason = f₂.reason → f₁.help = f₂.help →
      RenderAlike dialect fragments b₁ b₂ (.error f₁) (.error f₂)
  | rendered {m : Markup} {tree : Tree} {e₁ e₂ : Rendered} :
      Markup.assemble fragments b₁.size = .ok m →
      Tree.ofMarkup dialect b₁.shapes m = .ok tree →
      Tree.ofMarkup dialect b₂.shapes m = .ok tree →
      tree.SameSkeleton e₁ e₂ →
      (∀ s ∈ e₁.splices, b₁.value? s.slot = some (.array s.items)) →
      (∀ s ∈ e₂.splices, b₂.value? s.slot = some (.array s.items)) →
      RenderAlike dialect fragments b₁ b₂ (.ok e₁) (.ok e₂)

end

namespace Engine

/-- **Values cannot inject structure.** Two renders of the same fragments are alike if there are as
many values, and if the values in child text have the same shapes. What the values hold does not
matter, nor does the shape of a value in a tag. -/
theorem render_alike [Alphabet] [NumberFormat] (dialect : Dialect) (fragments : List Text)
    {b₁ b₂ : Bindings} (hsize : b₁.size = b₂.size)
    (hshape : ∀ m, Markup.assemble fragments b₁.size = .ok m →
      ∀ slot ∈ Tree.childSlots dialect b₁.shapes m, b₁.shape? slot = b₂.shape? slot) :
    RenderAlike dialect fragments b₁ b₂ ((new dialect .plain ()).render fragments b₁).1
      ((new dialect .plain ()).render fragments b₂).1 := by
  rw [render_new, render_new, ← hsize]
  cases hm : Markup.assemble fragments b₁.size with
  | error cause => exact .failed rfl rfl rfl
  | ok m =>
    have hread : Tree.ofMarkup dialect b₁.shapes m = Tree.ofMarkup dialect b₂.shapes m := by
      apply Tree.ofMarkup_congr
      intro slot hslot
      rw [← Bindings.shape?_eq, ← Bindings.shape?_eq]
      exact hshape m hm slot hslot
    simp only [← hread]
    cases htree : Tree.ofMarkup dialect b₁.shapes m with
    | error e =>
      -- The names may differ, since the shapes of attributes have a part in the key.
      apply RenderAlike.failed
      · simp [Fault.kind, Fault.ofSpan]
      · simp [Fault.reason, Fault.ofSpan]
      · simp [Fault.help, Fault.ofSpan]
    | ok tree =>
      have htree₂ : Tree.ofMarkup dialect b₂.shapes m = .ok tree := hread.symm.trans htree
      have halike := Tree.evaluate_alike hsize tree (Tree.shape?_of_ofMarkup htree)
        (Tree.shape?_of_ofMarkup htree₂)
      have hsplices₁ := @Tree.value?_of_mem_splices b₁ _ tree
      have hsplices₂ := @Tree.value?_of_mem_splices b₂ _ tree
      show RenderAlike dialect fragments b₁ b₂ ((tree.evaluate b₁).mapError Fault.ofCause)
        ((tree.evaluate b₂).mapError Fault.ofCause)
      generalize tree.evaluate b₁ = x₁, tree.evaluate b₂ = x₂ at halike hsplices₁ hsplices₂ ⊢
      cases halike with
      | error cause => exact .failed rfl rfl rfl
      | ok hsame => exact .rendered hm htree htree₂ hsame (hsplices₁ rfl) (hsplices₂ rfl)

/-- A link whose address is a text or a list, and whose label holds markup and a token or not. -/
theorem render_alike_link :
    (⟨[.string (txt "x"), .string (txt "</a><b>$1</b>")]⟩ : Bindings).size
        = (⟨[.array [.null], .string (txt "'>")]⟩ : Bindings).size ∧
      (∀ m, Markup.assemble [txt "<a href=", txt ">", txt "</a>"] 2 = .ok m →
        ∀ slot ∈ Tree.childSlots .standard [.scalar, .scalar] m,
          (⟨[.string (txt "x"), .string (txt "</a><b>$1</b>")]⟩ : Bindings).shape? slot
            = (⟨[.array [.null], .string (txt "'>")]⟩ : Bindings).shape? slot) ∧
      RenderAlike .standard [txt "<a href=", txt ">", txt "</a>"]
        ⟨[.string (txt "x"), .string (txt "</a><b>$1</b>")]⟩ ⟨[.array [.null], .string (txt "'>")]⟩
        ((new .standard .plain ()).render [txt "<a href=", txt ">", txt "</a>"]
          ⟨[.string (txt "x"), .string (txt "</a><b>$1</b>")]⟩).1
        ((new .standard .plain ()).render [txt "<a href=", txt ">", txt "</a>"]
          ⟨[.array [.null], .string (txt "'>")]⟩).1 := by
  have hshape : ∀ m, Markup.assemble [txt "<a href=", txt ">", txt "</a>"] 2 = .ok m →
      ∀ slot ∈ Tree.childSlots .standard [.scalar, .scalar] m,
        (⟨[.string (txt "x"), .string (txt "</a><b>$1</b>")]⟩ : Bindings).shape? slot
          = (⟨[.array [.null], .string (txt "'>")]⟩ : Bindings).shape? slot := by
    intro m hm
    cases hm
    decide +kernel
  exact ⟨rfl, hshape, render_alike .standard _ rfl hshape⟩

end Engine

end MarkupTemplate
