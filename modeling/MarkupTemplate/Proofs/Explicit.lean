import MarkupTemplate.Proofs.Evaluation

/-!
# Explicit plans

    tree ──ofTree──▶ plan ──────source──────▶ text
      └───explicit──▶ plan without anything rendered ──source──▶ the same text

The plan of a template has its static elements rendered beforehand, and shows only of the others how
their texts are resolved. Its source text does not show this difference: what is rendered is written
as if it were still to be resolved. So there is another plan with the same source, the `explicit`
one, in which no element is rendered and every text is the sum that the source shows. `run_explicit`
says that it does the same, and `plan_ofTree` that it is written the same.
-/

namespace MarkupTemplate

/-! ## Summands -/

namespace Interpolation

/-- The summands of the sum that an interpolated text is written as. The first one is literal. -/
def summands : Interpolation → Interpolation
  | [] => [.literal []]
  | .read slot :: rest => .literal [] :: .read slot :: rest
  | .literal t :: rest => .literal t :: rest

/-- The summands of a text in an element. If the element is static, then they are joined. -/
def summandsIn (static : Bool) (i : Interpolation) : Interpolation :=
  if static then [.literal i.literalText] else i.summands

theorem summands_ne_nil (i : Interpolation) : i.summands ≠ [] := by
  cases i with
  | nil => exact List.cons_ne_nil _ _
  | cons p i => cases p <;> exact List.cons_ne_nil _ _

theorem summands_summandsIn (static : Bool) (i : Interpolation) :
    (i.summandsIn static).summands = i.summandsIn static := by
  cases static with
  | true => rfl
  | false =>
    cases i with
    | nil => rfl
    | cons p i => cases p <;> rfl

variable [NumberFormat]

/-- The summands add up to the text. -/
theorem resolve_summands (b : Bindings) (i : Interpolation) :
    i.summands.resolve b = i.resolve b := by
  have hempty : ∀ i, resolve b (.literal [] :: i) = resolve b i := by
    intro i
    rw [resolve]
    cases resolve b i <;> rfl
  cases i with
  | nil => rfl
  | cons p i =>
    cases p with
    | literal t => rfl
    | read slot => exact hempty _

theorem resolve_summandsIn (b : Bindings) {static : Bool} {i : Interpolation}
    (h : static = true → i.isStatic = true) : (i.summandsIn static).resolve b = i.resolve b := by
  cases static with
  | true =>
    rw [resolve_of_isStatic b (h rfl)]
    exact resolve_of_literal? b (by simp [summandsIn, literal?])
  | false => exact resolve_summands b i

end Interpolation

theorem Tree.isStatic_of_key {head : Head Span Interpolation} {key : Interpolation}
    (h : headIsStatic head = true) (hkey : head.key = some key) : key.isStatic = true := by
  obtain ⟨hstatic, -⟩ := Bool.and_eq_true_iff.mp h
  rw [hkey] at hstatic
  exact hstatic

theorem Tree.isStatic_of_mem_entries {head : Head Span Interpolation} {e : Text × Interpolation}
    (h : headIsStatic head = true) (he : e ∈ head.attributes.entries) : e.2.isStatic = true :=
  List.all_eq_true.mp (Bool.and_eq_true_iff.mp h).2 e.2 (List.mem_map_of_mem he)

namespace Plan

/-! ## The plan -/

/-- The explicit plan of an element, with the given content. -/
def explicitHead (static : Bool) (head : Head Span Interpolation)
    (content : Content Interpolation (Child Plan Slot)) : Plan :=
  dynamic head.tag (head.key.map (Interpolation.summandsIn static))
    (head.attributes.entries.map fun e => (e.1, e.2.summandsIn static)) content

mutual
/-- The plan that says of each element how to resolve its texts, be it static or not. -/
def explicit : Tree → Plan
  | .mk head (.text body) =>
    explicitHead (Tree.isStatic (.mk head (.text body))) head
      (.text (body.summandsIn (Tree.isStatic (.mk head (.text body)))))
  | .mk head (.nodes children) =>
    explicitHead (Tree.isStatic (.mk head (.nodes children))) head
      (.nodes (explicitChildren children))

def explicitChildren : List (Child Tree Slot) → List (Child Plan Slot)
  | [] => []
  | .element e :: rest => .element (explicit e) :: explicitChildren rest
  | .splice slot :: rest => .splice slot :: explicitChildren rest
end

/-! ## What it does -/

variable [NumberFormat]

/-- Texts may be replaced by texts that resolve alike. -/
theorem evaluateEntries_map (b : Bindings) {f : Interpolation → Interpolation}
    {l : List (Text × Interpolation)} (h : ∀ e ∈ l, (f e.2).resolve b = e.2.resolve b) :
    Tree.evaluateEntries b (l.map fun e => (e.1, f e.2)) = Tree.evaluateEntries b l := by
  induction l with
  | nil => rfl
  | cons e l ih =>
    obtain ⟨he, hl⟩ := List.forall_mem_cons.mp h
    obtain ⟨name, value⟩ := e
    rw [List.map_cons, Tree.evaluateEntries, Tree.evaluateEntries, he, ih hl]

/-- An explicit head resolves to what the head is evaluated to. -/
theorem run_explicitHead {α : Type} (b : Bindings) {static : Bool} {head : Head Span Interpolation}
    (h : static = true → Tree.headIsStatic head = true) (f : Head Unit Text → Except Cause α) :
    (do let key ← (head.key.map (Interpolation.summandsIn static)).mapM (Interpolation.resolve b)
        let attributes ← Element.traverseEntries (Interpolation.resolve b)
          (head.attributes.entries.map fun e => (e.1, e.2.summandsIn static))
        f ⟨head.tag, key, attributes, ()⟩)
      = Tree.evaluateHead b head >>= f := by
  have hkey : (head.key.map (Interpolation.summandsIn static)).mapM (Interpolation.resolve b)
      = head.key.mapM (Interpolation.resolve b) := by
    cases hkey : head.key with
    | none => rfl
    | some key =>
      have hstatic : static = true → key.isStatic = true :=
        fun hs => Tree.isStatic_of_key (h hs) hkey
      simp only [Option.map_some, Option.mapM_some, Interpolation.resolve_summandsIn b hstatic]
  have hentries : ∀ e ∈ head.attributes.entries,
      (e.2.summandsIn static).resolve b = e.2.resolve b := by
    intro e he
    apply Interpolation.resolve_summandsIn
    intro hs
    exact Tree.isStatic_of_mem_entries (h hs) he
  rw [hkey, ← run_ofHead, traverseEntries_resolve, traverseEntries_resolve,
    evaluateEntries_map b hentries]

mutual
/-- **An explicit plan renders what the tree is evaluated to.** -/
theorem run_explicit (b : Bindings) : ∀ tree : Tree, (explicit tree).run b = tree.evaluate b
  | .mk head (.text body) => by
    have hhead : Tree.isStatic (.mk head (.text body)) = true → Tree.headIsStatic head = true :=
      fun h => (Bool.and_eq_true_iff.mp h).1
    have hbody : Tree.isStatic (.mk head (.text body)) = true → body.isStatic = true :=
      fun h => (Bool.and_eq_true_iff.mp h).2
    rw [explicit, explicitHead, run, Tree.evaluate, ← run_explicitHead b hhead,
      Interpolation.resolve_summandsIn b hbody]
  | .mk head (.nodes children) => by
    have hhead : Tree.isStatic (.mk head (.nodes children)) = true →
        Tree.headIsStatic head = true := fun h => (Bool.and_eq_true_iff.mp h).1
    rw [explicit, explicitHead, run, Tree.evaluate, ← run_explicitHead b hhead,
      runChildren_explicitChildren b children]

theorem runChildren_explicitChildren (b : Bindings) :
    ∀ children : List (Child Tree Slot),
      runChildren b (explicitChildren children) = Tree.evaluateChildren b children
  | [] => rfl
  | .element e :: rest => by
    rw [explicitChildren, runChildren, Tree.evaluateChildren, run_explicit b e,
      runChildren_explicitChildren b rest]
  | .splice slot :: rest => by
    rw [explicitChildren, runChildren, Tree.evaluateChildren, runChildren_explicitChildren b rest]
end

end Plan

/-! ## How it is written -/

namespace Source

theorem text_summands (i : Interpolation) : text i.summands = text i := by
  cases i with
  | nil => rfl
  | cons p i => cases p <;> rfl

/-- What is written of a child. -/
def child : Child Plan Slot → Text
  | .element p => plan p
  | .splice slot => splice slot

/-- Children are written with a comma in front of each but the first. -/
theorem cons_planChildren {children : List (Child Plan Slot)} (h : children ≠ []) :
    ',' :: planChildren children = children.flatMap fun c => ',' :: child c := by
  induction children with
  | nil => exact absurd rfl h
  | cons c rest ih =>
    cases rest with
    | nil => cases c <;> simp [planChildren, child]
    | cons d rest =>
      have hrest := ih (List.cons_ne_nil d rest)
      cases c with
      | element p =>
        rw [List.flatMap_cons, ← hrest, planChildren]
        · rfl
        · intro h
          cases h
      | splice slot =>
        rw [List.flatMap_cons, ← hrest, planChildren]
        · rfl
        · intro h
          cases h

/-- Children are written alike if each of them is. -/
theorem planChildren_congr {l l' : List (Child Plan Slot)}
    (h : (l.flatMap fun c => ',' :: child c) = l'.flatMap fun c => ',' :: child c) :
    planChildren l = planChildren l' := by
  cases l with
  | nil =>
    cases l' with
    | nil => rfl
    | cons d l' => cases h
  | cons c l =>
    cases l' with
    | nil => cases h
    | cons d l' =>
      rw [← cons_planChildren (List.cons_ne_nil c l),
        ← cons_planChildren (List.cons_ne_nil d l')] at h
      exact (List.cons.inj h).2

/-- What is rendered beforehand of a head is written as the explicit head. -/
theorem object_prebuiltHead {head : Head Span Interpolation} (h : Tree.headIsStatic head = true)
    (content : Text) :
    object head.tag ((Tree.prebuiltHead head).key.map stringLiteral)
        ((Tree.prebuiltHead head).attributes.entries.map fun e => (e.1, stringLiteral e.2)) content
      = object head.tag ((head.key.map (Interpolation.summandsIn true)).map text)
        ((head.attributes.entries.map fun e => (e.1, e.2.summandsIn true)).map
          fun e => (e.1, text e.2)) content := by
  have hkey : (Tree.prebuiltHead head).key.map stringLiteral
      = (head.key.map (Interpolation.summandsIn true)).map text := by
    rw [Tree.prebuiltHead]
    cases hkey : head.key with
    | none => rfl
    | some key =>
      rw [Option.bind_some, Interpolation.literal?_of_isStatic (Tree.isStatic_of_key h hkey)]
      rfl
  have hentries :
      (Tree.prebuiltHead head).attributes.entries.map (fun e => (e.1, stringLiteral e.2))
      = (head.attributes.entries.map fun e => (e.1, e.2.summandsIn true)).map
        fun e => (e.1, text e.2) := by
    rw [Tree.prebuiltHead, Attributes.entries_map, List.map_map, List.map_map]
    rfl
  rw [hkey, hentries]

mutual
/-- What is rendered beforehand is written as the explicit plan. -/
theorem rendered_prebuilt : ∀ tree : Tree, tree.isStatic = true →
    rendered tree.prebuilt = plan (Plan.explicit tree)
  | .mk head (.text body), h => by
    have hhead := (Bool.and_eq_true_iff.mp h).1
    rw [Tree.prebuilt, rendered, Plan.explicit, h, Plan.explicitHead, plan]
    exact object_prebuiltHead hhead _
  | .mk head (.nodes children), h => by
    obtain ⟨hhead, hchildren⟩ := Bool.and_eq_true_iff.mp h
    rw [Tree.prebuilt, rendered, Plan.explicit, h, Plan.explicitHead, plan,
      renderedChildren_prebuilt children hchildren]
    exact object_prebuiltHead hhead _

theorem renderedChildren_prebuilt : ∀ children : List (Child Tree Slot),
    Tree.allStatic children = true →
      renderedChildren (Tree.prebuiltChildren children)
        = planChildren (Plan.explicitChildren children)
  | [], _ => rfl
  | [.element e], h => by
    have he := (Bool.and_eq_true_iff.mp h).1
    exact rendered_prebuilt e he
  | .element e :: .element d :: rest, h => by
    obtain ⟨he, hrest⟩ := Bool.and_eq_true_iff.mp h
    have htail := renderedChildren_prebuilt (.element d :: rest) hrest
    exact congrArg₂ (· ++ ',' :: ·) (rendered_prebuilt e he) htail
  | .element e :: .splice slot :: rest, h => by simp [Tree.allStatic] at h
  | .splice slot :: rest, h => by simp [Tree.allStatic] at h
end

/-- Texts of a head may be replaced by texts that are written alike. -/
theorem object_map_text {f : Interpolation → Interpolation} {head : Head Span Interpolation}
    (hkey : ∀ key, head.key = some key → text (f key) = text key)
    (hentries : ∀ e ∈ head.attributes.entries, text (f e.2) = text e.2) (content : Text) :
    object head.tag ((head.key.map f).map text)
        ((head.attributes.entries.map fun e => (e.1, f e.2)).map fun e => (e.1, text e.2)) content
      = object head.tag (head.key.map text)
        (head.attributes.entries.map fun e => (e.1, text e.2)) content := by
  have hkey : (head.key.map f).map text = head.key.map text := by
    rw [Option.map_map]
    exact Option.map_congr hkey
  have hentries : (head.attributes.entries.map fun e => (e.1, f e.2)).map
      (fun e => (e.1, text e.2)) = head.attributes.entries.map fun e => (e.1, text e.2) := by
    rw [List.map_map]
    exact List.map_congr_left fun e he => congrArg (e.1, ·) (hentries e he)
  rw [hkey, hentries]

/-- A head that is not static is written as the explicit head. -/
theorem object_summands (head : Head Span Interpolation) (content : Text) :
    object head.tag (head.key.map text)
        (head.attributes.entries.map fun e => (e.1, text e.2)) content
      = object head.tag ((head.key.map (Interpolation.summandsIn false)).map text)
        ((head.attributes.entries.map fun e => (e.1, e.2.summandsIn false)).map
          fun e => (e.1, text e.2)) content :=
  (object_map_text (fun key _ => text_summands key) (fun e _ => text_summands e.2) content).symm

mutual
/-- **The plan of a template is written as its explicit plan.** -/
theorem plan_ofTree : ∀ tree : Tree, plan (Plan.ofTree tree) = plan (Plan.explicit tree)
  | .mk head (.text body) => by
    rw [Plan.ofTree]
    split
    · next h => exact rendered_prebuilt _ h
    · next h =>
      rw [Bool.not_eq_true] at h
      rw [Plan.explicit, h, Plan.ofHead, Plan.explicitHead, plan, plan, object_summands]
      exact congrArg (object _ _ _) (text_summands body).symm
  | .mk head (.nodes children) => by
    rw [Plan.ofTree]
    split
    · next h => exact rendered_prebuilt _ h
    · next h =>
      rw [Bool.not_eq_true] at h
      rw [Plan.explicit, h, Plan.ofHead, Plan.explicitHead, plan, plan, object_summands,
        planChildren_congr (flatMap_ofChildren children)]

theorem flatMap_ofChildren : ∀ children : List (Child Tree Slot),
    ((Plan.ofChildren children).flatMap fun c => ',' :: child c)
      = (Plan.explicitChildren children).flatMap fun c => ',' :: child c
  | [] => rfl
  | .element e :: rest => by
    rw [Plan.ofChildren, Plan.explicitChildren, List.flatMap_cons, List.flatMap_cons,
      flatMap_ofChildren rest, child, child, plan_ofTree e]
  | .splice slot :: rest => by
    rw [Plan.ofChildren, Plan.explicitChildren, List.flatMap_cons, List.flatMap_cons,
      flatMap_ofChildren rest]
end

end Source

end MarkupTemplate
