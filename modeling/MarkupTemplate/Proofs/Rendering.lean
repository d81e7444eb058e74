import MarkupTemplate.Proofs.Documents
import MarkupTemplate.Proofs.Evaluation
import MarkupTemplate.Proofs.MarkedTrees
import MarkupTemplate.Proofs.Outcome

/-!
# What an engine answers

Rendering and compiling both begin with `Engine.producer`, so what they answer and what they leave
behind is said in its terms. An engine that has compiled nothing finds nothing in its cache; what it
renders is said by `render_new` without plans, cache and host: the markup is assembled, read as a
tree, and the tree is evaluated.
-/

namespace MarkupTemplate.Engine

variable {σ : Type}

/-! ## Rendering and compiling -/

variable [Alphabet]

theorem render_fst (engine : Engine σ) (fragments : List Text) (b : Bindings) :
    (engine.render fragments b).1
      = (engine.producer fragments b).1 >>= fun found => found.2 b := by
  rw [render]
  split <;> next h => rw [h]; rfl

theorem render_snd (engine : Engine σ) (fragments : List Text) (b : Bindings) :
    (engine.render fragments b).2 = (engine.producer fragments b).2 := by
  rw [render]
  split <;> next h => rw [h]

theorem compile_fst (engine : Engine σ) (fragments : List Text) (b : Bindings) :
    (engine.compile fragments b).1 = (engine.producer fragments b).1.map Prod.fst := by
  rw [compile]
  split <;> next h => rw [h]; rfl

theorem compile_snd (engine : Engine σ) (fragments : List Text) (b : Bindings) :
    (engine.compile fragments b).2 = (engine.producer fragments b).2 := by
  rw [compile]
  split <;> next h => rw [h]

/-! ## A fresh engine -/

variable [NumberFormat]

/-- A fresh engine compiles what it is asked for. -/
theorem producer_new (dialect : Dialect) (fragments : List Text) (b : Bindings) :
    ((new dialect .plain ()).producer fragments b).1 =
      match Markup.assemble fragments b.size with
      | .error cause => .error (Fault.ofCause cause)
      | .ok m =>
        match Tree.ofMarkup dialect b.shapes m with
        | .error e => .error ((Fault.ofSpan m.text e.span e.cause).named (m.key b.shapes))
        | .ok tree => .ok (m.key b.shapes, (Plan.ofTree tree).produce) := by
  rw [producer]
  cases Markup.assemble fragments b.size with
  | error cause => rfl
  | ok m =>
    -- Nothing is found in the empty cache.
    simp only [new, Cache.get?_empty]
    rw [Template.compile_eq]
    cases Tree.ofMarkup dialect b.shapes m <;> rfl

/-- **A fresh engine evaluates the tree that the markup is read as.** -/
theorem render_new (dialect : Dialect) (fragments : List Text) (b : Bindings) :
    ((new dialect .plain ()).render fragments b).1 =
      match Markup.assemble fragments b.size with
      | .error cause => .error (Fault.ofCause cause)
      | .ok m =>
        match Tree.ofMarkup dialect b.shapes m with
        | .error e => .error ((Fault.ofSpan m.text e.span e.cause).named (m.key b.shapes))
        | .ok tree => (tree.evaluate b).mapError Fault.ofCause := by
  rw [render_fst, producer_new]
  cases Markup.assemble fragments b.size with
  | error cause => rfl
  | ok m =>
    cases htree : Tree.ofMarkup dialect b.shapes m with
    | error e =>
      simp only [htree]
      rfl
    | ok tree =>
      simp only [htree]
      show (Plan.ofTree tree).produce b = _
      rw [Plan.produce, Plan.run_ofTree]

/-- What a fresh engine renders is evaluated from the tree of a document. -/
theorem render_new_eq_ok_iff {dialect : Dialect} {fragments : List Text} {b : Bindings}
    {e : Rendered} :
    ((new dialect .plain ()).render fragments b).1 = .ok e ↔
      ∃ m l tree, Markup.assemble fragments b.size = .ok m ∧ Cuts 0 m l ∧
        IsDocument dialect b.shapes l tree ∧ tree.evaluate b = .ok e := by
  rw [render_new]
  constructor
  · intro h
    cases hm : Markup.assemble fragments b.size with
    | error cause =>
      rw [hm] at h
      cases h
    | ok m =>
      rw [hm] at h
      cases htree : Tree.ofMarkup dialect b.shapes m with
      | error misreading =>
        simp only [htree] at h
        cases h
      | ok tree =>
        simp only [htree] at h
        obtain ⟨l, hl, hdocument⟩ := Tree.ofMarkup_eq_ok htree
        exact ⟨m, l, tree, rfl, hl, hdocument, mapError_eq_ok.mp h⟩
  · rintro ⟨m, l, tree, hm, hl, hdocument, heval⟩
    rw [hm]
    simp only [Tree.ofMarkup_of_isDocument hl hdocument, heval]
    rfl

/-- What a fresh engine compiles is assembled and read as a tree. -/
theorem compile_new_eq_ok {dialect : Dialect} {fragments : List Text} {b : Bindings} {key : Key}
    (h : ((new dialect .plain ()).compile fragments b).1 = .ok key) :
    ∃ m tree, Markup.assemble fragments b.size = .ok m ∧
      Tree.ofMarkup dialect b.shapes m = .ok tree := by
  rw [compile_fst, producer_new] at h
  cases hm : Markup.assemble fragments b.size with
  | error cause =>
    rw [hm] at h
    cases h
  | ok m =>
    rw [hm] at h
    cases htree : Tree.ofMarkup dialect b.shapes m with
    | error e =>
      simp only [htree] at h
      cases h
    | ok tree => exact ⟨m, tree, rfl, htree⟩

end MarkupTemplate.Engine
