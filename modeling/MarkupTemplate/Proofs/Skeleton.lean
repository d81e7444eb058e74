import MarkupTemplate.Proofs.Evaluation
import MarkupTemplate.Proofs.Outcome

/-!
# The skeleton of a rendered element

    tree ──evaluate b₁──▶ e₁
      └────evaluate b₂──▶ e₂

Values only ever fill texts and splices. Two elements that the same tree is evaluated to have the
*same skeleton*: the same tags and attribute names, a key in the same places, the same content apart
from texts and lists, and equal texts wherever the tree reads no slot. `Tree.evaluate_alike` says
that evaluation keeps to this, and that it succeeds for both values or fails for the same cause.
-/

namespace MarkupTemplate

/-! ## Splices -/

namespace Element

variable {ι τ σ : Type}

mutual
/-- All that is spliced into an element, at any depth. -/
def splices : Element ι τ σ → List σ
  | .mk _ (.text _) => []
  | .mk _ (.nodes children) => splicesOf children

/-- All that is spliced in among children. -/
def splicesOf : List (Child (Element ι τ σ) σ) → List σ
  | [] => []
  | .element e :: rest => splices e ++ splicesOf rest
  | .splice s :: rest => s :: splicesOf rest
end

end Element

namespace Tree

/-! ## Elements of the same skeleton -/

/-- Texts that an interpolated text may resolve to for different values. -/
def SameText (i : Interpolation) (s t : Text) : Prop := i.isStatic = true → s = t

/-- Keys that a key may resolve to. -/
inductive SameKey : Option Interpolation → Option Text → Option Text → Prop
  | none : SameKey none none none
  | some {i : Interpolation} {s t : Text} : SameText i s t → SameKey (some i) (some s) (some t)

/-- Attributes that attributes may resolve to: the same names in the same order. -/
inductive SameEntries :
    List (Text × Interpolation) → List (Text × Text) → List (Text × Text) → Prop
  | nil : SameEntries [] [] []
  | cons {name : Text} {i : Interpolation} {s t : Text} {l : List (Text × Interpolation)}
      {l₁ l₂ : List (Text × Text)} :
      SameText i s t → SameEntries l l₁ l₂ →
      SameEntries ((name, i) :: l) ((name, s) :: l₁) ((name, t) :: l₂)

/-- Heads that a head may resolve to. -/
structure SameHead (head : Head Span Interpolation) (h₁ h₂ : Head Unit Text) : Prop where
  tag₁ : h₁.tag = head.tag
  tag₂ : h₂.tag = head.tag
  key : SameKey head.key h₁.key h₂.key
  attributes : SameEntries head.attributes.entries h₁.attributes.entries h₂.attributes.entries

mutual
/-- Elements that a tree may be evaluated to for different values. -/
inductive SameSkeleton : Tree → Rendered → Rendered → Prop
  | text {head : Head Span Interpolation} {h₁ h₂ : Head Unit Text} {body : Interpolation}
      {s t : Text} :
      SameHead head h₁ h₂ → SameText body s t →
      SameSkeleton (.mk head (.text body)) (.mk h₁ (.text s)) (.mk h₂ (.text t))
  | nodes {head : Head Span Interpolation} {h₁ h₂ : Head Unit Text}
      {children : List (Child Tree Slot)} {c₁ c₂ : List (Child Rendered Splice)} :
      SameHead head h₁ h₂ → SameChildren children c₁ c₂ →
      SameSkeleton (.mk head (.nodes children)) (.mk h₁ (.nodes c₁)) (.mk h₂ (.nodes c₂))

/-- Children that children may be evaluated to for different values. -/
inductive SameChildren :
    List (Child Tree Slot) → List (Child Rendered Splice) → List (Child Rendered Splice) → Prop
  | nil : SameChildren [] [] []
  | element {e : Tree} {e₁ e₂ : Rendered} {rest : List (Child Tree Slot)}
      {c₁ c₂ : List (Child Rendered Splice)} :
      SameSkeleton e e₁ e₂ → SameChildren rest c₁ c₂ →
      SameChildren (.element e :: rest) (.element e₁ :: c₁) (.element e₂ :: c₂)
  | splice {slot : Slot} {items₁ items₂ : List Json} {rest : List (Child Tree Slot)}
      {c₁ c₂ : List (Child Rendered Splice)} :
      SameChildren rest c₁ c₂ →
      SameChildren (.splice slot :: rest) (.splice ⟨slot, items₁⟩ :: c₁)
        (.splice ⟨slot, items₂⟩ :: c₂)
end

end Tree

/-! ## Reading values -/

variable {b b₁ b₂ : Bindings}

namespace Bindings

/-- Whether a slot can be read depends on the number of values only. -/
theorem read_alike (hsize : b₁.size = b₂.size) (slot : Slot) :
    Alike (fun _ _ => True) (b₁.read slot) (b₂.read slot) := by
  have hlength : b₁.values.length = b₂.values.length := hsize
  rw [read, read, value?, value?, hsize]
  by_cases hslot : slot.index < b₁.values.length
  · rw [List.getElem?_eq_getElem hslot, List.getElem?_eq_getElem (hlength ▸ hslot)]
    exact .ok trivial
  · rw [List.getElem?_eq_none (by omega), List.getElem?_eq_none (by omega)]
    exact .error _

/-- A slot that is bound to a list can be spliced. -/
theorem exists_of_shape? {slot : Slot} (h : b.shape? slot = some .list) :
    ∃ items, b.readList slot = .ok items := by
  obtain ⟨value, hvalue, hshape⟩ := Option.map_eq_some_iff.mp h
  cases value with
  | array items =>
    refine ⟨items, ?_⟩
    rw [readList, hvalue]
  | _ => cases hshape

theorem readList_alike {slot : Slot} (h₁ : b₁.shape? slot = some .list)
    (h₂ : b₂.shape? slot = some .list) :
    Alike (fun _ _ => True) (b₁.readList slot) (b₂.readList slot) := by
  obtain ⟨items₁, h₁⟩ := exists_of_shape? h₁
  obtain ⟨items₂, h₂⟩ := exists_of_shape? h₂
  rw [h₁, h₂]
  exact .ok trivial

theorem value?_of_readList {slot : Slot} {items : List Json} (h : b.readList slot = .ok items) :
    b.value? slot = some (.array items) := by
  rw [readList] at h
  split at h
  · next hvalue =>
    cases h
    exact hvalue
  · cases h
  · cases h

end Bindings

theorem Interpolation.resolve_alike [NumberFormat] (hsize : b₁.size = b₂.size) (i : Interpolation) :
    Alike (fun _ _ => True) (i.resolve b₁) (i.resolve b₂) := by
  induction i with
  | nil => exact .ok trivial
  | cons p i ih =>
    cases p with
    | literal t => exact ih.bind fun _ _ _ => .ok trivial
    | read slot =>
      apply (Bindings.read_alike hsize slot).bind
      intro _ _ _
      exact ih.bind fun _ _ _ => .ok trivial

namespace Tree

/-! ## Evaluating for two values -/

/-- A text that reads nothing resolves to the same for all values. -/
theorem sameText_alike [NumberFormat] (hsize : b₁.size = b₂.size) (i : Interpolation) :
    Alike (SameText i) (i.resolve b₁) (i.resolve b₂) := by
  by_cases hi : i.isStatic = true
  · rw [Interpolation.resolve_of_isStatic b₁ hi, Interpolation.resolve_of_isStatic b₂ hi]
    exact .ok fun _ => rfl
  · apply (Interpolation.resolve_alike hsize i).mono
    intro s t _ hstatic
    exact absurd hstatic hi

theorem evaluateEntries_alike [NumberFormat] (hsize : b₁.size = b₂.size)
    (l : List (Text × Interpolation)) :
    Alike (SameEntries l) (evaluateEntries b₁ l) (evaluateEntries b₂ l) := by
  induction l with
  | nil => exact .ok .nil
  | cons e l ih =>
    obtain ⟨name, value⟩ := e
    apply (sameText_alike hsize value).bind
    intro s t hst
    apply ih.bind
    intro l₁ l₂ hl
    exact .ok (.cons hst hl)

theorem SameEntries.names_eq {l : List (Text × Interpolation)} {l₁ l₂ : List (Text × Text)}
    (h : SameEntries l l₁ l₂) :
    l₁.map Prod.fst = l.map Prod.fst ∧ l₂.map Prod.fst = l.map Prod.fst := by
  induction h with
  | nil => exact ⟨rfl, rfl⟩
  | @cons name _ _ _ _ _ _ _ _ ih =>
    exact ⟨congrArg (name :: ·) ih.1, congrArg (name :: ·) ih.2⟩

variable [NumberFormat]

theorem evaluateHead_alike (hsize : b₁.size = b₂.size) (head : Head Span Interpolation) :
    Alike (SameHead head) (evaluateHead b₁ head) (evaluateHead b₂ head) := by
  have hattributes : ∀ {key₁ key₂ : Option Text}, SameKey head.key key₁ key₂ →
      Alike (SameHead head)
        (evaluateEntries b₁ head.attributes.entries >>= fun l =>
          .ok ⟨head.tag, key₁, .ofList l, ()⟩)
        (evaluateEntries b₂ head.attributes.entries >>= fun l =>
          .ok ⟨head.tag, key₂, .ofList l, ()⟩) := by
    intro key₁ key₂ hkey
    apply (evaluateEntries_alike hsize head.attributes.entries).bind
    intro l₁ l₂ hl
    refine .ok ⟨rfl, rfl, hkey, ?_⟩
    -- No name stands twice, so the attributes keep their order.
    obtain ⟨hnames₁, hnames₂⟩ := hl.names_eq
    rw [Attributes.entries_ofList_of_names hnames₁, Attributes.entries_ofList_of_names hnames₂]
    exact hl
  obtain ⟨tag, key, attributes, origin⟩ := head
  cases key with
  | none => exact hattributes .none
  | some key =>
    have hkey : Alike (SameKey (some key)) ((key.resolve b₁).map some)
        ((key.resolve b₂).map some) :=
      (sameText_alike hsize key).map fun s t hst => .some hst
    exact hkey.bind fun key₁ key₂ hkey => hattributes hkey

mutual
/-- **A tree is evaluated alike for all values, if as many are bound and all splices are bound to
lists.** -/
theorem evaluate_alike (hsize : b₁.size = b₂.size) :
    ∀ tree : Tree, (∀ slot ∈ tree.splices, b₁.shape? slot = some .list) →
      (∀ slot ∈ tree.splices, b₂.shape? slot = some .list) →
      Alike (SameSkeleton tree) (tree.evaluate b₁) (tree.evaluate b₂)
  | .mk head (.text body), _, _ => by
    rw [evaluate, evaluate]
    apply (evaluateHead_alike hsize head).bind
    intro h₁ h₂ hhead
    apply (sameText_alike hsize body).bind
    intro s t hst
    exact .ok (.text hhead hst)
  | .mk head (.nodes children), hlist₁, hlist₂ => by
    rw [evaluate, evaluate]
    apply (evaluateHead_alike hsize head).bind
    intro h₁ h₂ hhead
    apply (evaluateChildren_alike hsize children hlist₁ hlist₂).bind
    intro c₁ c₂ hchildren
    exact .ok (.nodes hhead hchildren)

theorem evaluateChildren_alike (hsize : b₁.size = b₂.size) :
    ∀ children : List (Child Tree Slot),
      (∀ slot ∈ Element.splicesOf children, b₁.shape? slot = some .list) →
      (∀ slot ∈ Element.splicesOf children, b₂.shape? slot = some .list) →
      Alike (SameChildren children) (evaluateChildren b₁ children) (evaluateChildren b₂ children)
  | [], _, _ => .ok .nil
  | .element e :: rest, hlist₁, hlist₂ => by
    rw [evaluateChildren, evaluateChildren]
    have he := evaluate_alike hsize e (fun s hs => hlist₁ s (List.mem_append_left _ hs))
      (fun s hs => hlist₂ s (List.mem_append_left _ hs))
    have hrest := evaluateChildren_alike hsize rest
      (fun s hs => hlist₁ s (List.mem_append_right _ hs))
      (fun s hs => hlist₂ s (List.mem_append_right _ hs))
    apply he.bind
    intro e₁ e₂ he
    apply hrest.bind
    intro c₁ c₂ hc
    exact .ok (.element he hc)
  | .splice slot :: rest, hlist₁, hlist₂ => by
    rw [evaluateChildren, evaluateChildren]
    have hslot := Bindings.readList_alike (hlist₁ slot List.mem_cons_self)
      (hlist₂ slot List.mem_cons_self)
    have hrest := evaluateChildren_alike hsize rest
      (fun s hs => hlist₁ s (List.mem_cons_of_mem _ hs))
      (fun s hs => hlist₂ s (List.mem_cons_of_mem _ hs))
    apply hslot.bind
    intro items₁ items₂ _
    apply hrest.bind
    intro c₁ c₂ hc
    exact .ok (.splice hc)
end

/-! ## What splices hold -/

mutual
/-- A splice of an evaluated element holds the list that is bound to its slot. -/
theorem value?_of_mem_splices :
    ∀ (tree : Tree) {e : Rendered}, tree.evaluate b = .ok e → ∀ s ∈ e.splices,
      b.value? s.slot = some (.array s.items)
  | .mk head (.text body), e, h, s, hs => by
    obtain ⟨head', -, h⟩ := bind_eq_ok.mp h
    obtain ⟨text, -, h⟩ := bind_eq_ok.mp h
    cases h
    cases hs
  | .mk head (.nodes children), e, h, s, hs => by
    obtain ⟨head', -, h⟩ := bind_eq_ok.mp h
    obtain ⟨children', hchildren, h⟩ := bind_eq_ok.mp h
    cases h
    exact value?_of_mem_splicesOf children hchildren s hs

theorem value?_of_mem_splicesOf :
    ∀ (children : List (Child Tree Slot)) {c : List (Child Rendered Splice)},
      evaluateChildren b children = .ok c → ∀ s ∈ Element.splicesOf c,
      b.value? s.slot = some (.array s.items)
  | [], c, h, s, hs => by
    cases h
    cases hs
  | .element e :: rest, c, h, s, hs => by
    obtain ⟨e', he, h⟩ := bind_eq_ok.mp h
    obtain ⟨rest', hrest, h⟩ := bind_eq_ok.mp h
    cases h
    rcases List.mem_append.mp hs with hs | hs
    · exact value?_of_mem_splices e he s hs
    · exact value?_of_mem_splicesOf rest hrest s hs
  | .splice slot :: rest, c, h, s, hs => by
    obtain ⟨items, hitems, h⟩ := bind_eq_ok.mp h
    obtain ⟨rest', hrest, h⟩ := bind_eq_ok.mp h
    cases h
    rcases List.mem_cons.mp hs with rfl | hs
    · exact Bindings.value?_of_readList hitems
    · exact value?_of_mem_splicesOf rest hrest s hs
end

end Tree

end MarkupTemplate
