import MarkupTemplate.Libraries
import MarkupTemplate.Proofs.Identity
import MarkupTemplate.Proofs.Rendering

/-!
# Histories of an engine

An engine keeps what it compiles, so what it answers could depend on what it was asked before. This
module says that it does not: a template that an engine without a history compiles is rendered the
same way after any history of calls, `render_after`. Calls may fail, and templates may share keys.

The invariant of a history is `Faithful`: every producer in the cache is that of a template which
was read as a tree, and is stored under the key and the identity of just that template. A look-up
goes by the identity, and `Markup.eq_of_identity_eq` says that the template found is then the one
that was asked for.
-/

namespace MarkupTemplate

/-- A call of an engine. -/
inductive Call where
  | render (fragments : List Text) (b : Bindings)
  | compile (fragments : List Text) (b : Bindings)
  | invoke (key : Key) (b : Bindings)

namespace Engine

variable {σ : Type}

variable [Alphabet]

/-- The engine that a call leaves behind. Invoking only reads the cache. -/
def take (engine : Engine σ) : Call → Engine σ
  | .render fragments b => (engine.render fragments b).2
  | .compile fragments b => (engine.compile fragments b).2
  | .invoke _ _ => engine

/-- The engine that calls leave behind, one after another. -/
def after (engine : Engine σ) (calls : List Call) : Engine σ := calls.foldl take engine

@[simp] theorem after_nil (engine : Engine σ) : engine.after [] = engine := rfl

@[simp] theorem after_cons (engine : Engine σ) (call : Call) (calls : List Call) :
    engine.after (call :: calls) = (engine.take call).after calls := rfl

end Engine

/-! ## Faithful engines -/

section

variable [Alphabet] [NumberFormat]

/-- An entry that is what compiling some template stores. -/
inductive Entry.IsCompiled (dialect : Dialect) : Entry Producer → Prop
  | mk {fragments : List Text} {shapes : List Shape} {m : Markup} {tree : Tree} :
      Markup.assemble fragments shapes.length = .ok m →
      Tree.ofMarkup dialect shapes m = .ok tree →
      IsCompiled dialect ⟨m.key shapes, m.identity shapes, (Plan.ofTree tree).produce⟩

/-- A plain engine of a dialect whose cache holds only what compiling stores. -/
structure Engine.Faithful (dialect : Dialect) (engine : Engine Unit) : Prop where
  dialect_eq : engine.dialect = dialect
  host_eq : engine.host = .plain
  isCompiled : ∀ e ∈ engine.cache.entries, e.IsCompiled dialect

/-- The entry for the identity of a template holds the producer of that template. -/
theorem Entry.IsCompiled.producer_eq {dialect : Dialect} {e : Entry Producer}
    (he : e.IsCompiled dialect) {fragments : List Text} {shapes : List Shape} {m : Markup}
    {tree : Tree} (hm : Markup.assemble fragments shapes.length = .ok m)
    (htree : Tree.ofMarkup dialect shapes m = .ok tree) (hid : e.identity = m.identity shapes) :
    e.producer = (Plan.ofTree tree).produce := by
  obtain ⟨hm', htree'⟩ := he
  obtain ⟨rfl, rfl⟩ := Markup.eq_of_identity_eq hm' hm htree' htree hid
  rw [htree] at htree'
  cases htree'
  rfl

end

namespace Engine

variable {dialect : Dialect} {engine : Engine Unit}

theorem faithful_new [Alphabet] [NumberFormat] (dialect : Dialect) :
    (new dialect .plain ()).Faithful dialect where
  dialect_eq := rfl
  host_eq := rfl
  isCompiled := by
    intro e he
    cases he

namespace Faithful

variable [Alphabet] [NumberFormat]

/-- Compiling one more template keeps an engine faithful. -/
theorem install (h : engine.Faithful dialect) {fragments : List Text} {shapes : List Shape}
    {m : Markup} {tree : Tree} (hm : Markup.assemble fragments shapes.length = .ok m)
    (htree : Tree.ofMarkup dialect shapes m = .ok tree) :
    (engine.install (m.identity shapes) (.ofTree (m.key shapes) tree)).2.Faithful dialect := by
  obtain ⟨dialect', host, state, cache, compilations⟩ := engine
  obtain ⟨rfl, rfl, hcache⟩ := h
  refine ⟨rfl, rfl, ?_⟩
  intro e he
  rcases Cache.mem_putEntry he with rfl | he
  · exact .mk hm htree
  · exact hcache e he

/-- Whatever becomes of a request for a producer, the engine stays faithful. -/
theorem producer (h : engine.Faithful dialect) (fragments : List Text) (b : Bindings) :
    (engine.producer fragments b).2.Faithful dialect := by
  rw [Engine.producer]
  cases hm : Markup.assemble fragments b.size with
  | error cause => exact h
  | ok m =>
    rw [← Bindings.length_shapes] at hm
    -- The cache grows only if nothing is found in it and the markup can be read.
    cases hfound : engine.cache.get? (Key.ofText (m.identity b.shapes)) (m.identity b.shapes) with
    | some producer =>
      simp only [hfound]
      exact h
    | none =>
      simp only [hfound, Template.compile_eq, h.dialect_eq]
      cases htree : Tree.ofMarkup dialect b.shapes m with
      | error e => exact h
      | ok tree => exact h.install hm htree

/-- **One step**: a call keeps an engine faithful. -/
theorem take (h : engine.Faithful dialect) (call : Call) : (engine.take call).Faithful dialect := by
  cases call with
  | render fragments b =>
    show (engine.render fragments b).2.Faithful dialect
    rw [render_snd]
    exact h.producer fragments b
  | compile fragments b =>
    show (engine.compile fragments b).2.Faithful dialect
    rw [compile_snd]
    exact h.producer fragments b
  | invoke key b => exact h

/-- **A whole history**: an engine stays faithful. -/
theorem after (h : engine.Faithful dialect) (calls : List Call) :
    (engine.after calls).Faithful dialect := by
  induction calls generalizing engine with
  | nil =>
    rw [after_nil]
    exact h
  | cons call calls ih =>
    rw [after_cons]
    exact ih (h.take call)

/-- A faithful engine has the producer of every template that can be read as a tree, whether it
finds it or compiles it. -/
theorem producer_of_ofMarkup (h : engine.Faithful dialect) {fragments : List Text} {b : Bindings}
    {m : Markup} {tree : Tree} (hm : Markup.assemble fragments b.size = .ok m)
    (htree : Tree.ofMarkup dialect b.shapes m = .ok tree) :
    (engine.producer fragments b).1 = .ok (m.key b.shapes, (Plan.ofTree tree).produce) := by
  rw [Engine.producer, hm]
  cases hfound : engine.cache.get? (Key.ofText (m.identity b.shapes)) (m.identity b.shapes) with
  | some producer =>
    simp only [hfound]
    -- What is found was stored for this identity, and so for this template.
    obtain ⟨e, he, -, hid, rfl⟩ := Cache.exists_of_get? hfound
    rw [← Bindings.length_shapes] at hm
    rw [(h.isCompiled e he).producer_eq hm htree hid]
    rfl
  | none =>
    simp only [hfound, Template.compile_eq, h.dialect_eq, htree, Engine.install, h.host_eq]
    rfl

/-- All faithful engines render a template that can be read as a tree alike. -/
theorem render_of_ofMarkup (h : engine.Faithful dialect) {fragments : List Text} {b : Bindings}
    {m : Markup} {tree : Tree} (hm : Markup.assemble fragments b.size = .ok m)
    (htree : Tree.ofMarkup dialect b.shapes m = .ok tree) :
    (engine.render fragments b).1 = (tree.evaluate b).mapError Fault.ofCause := by
  rw [render_fst, h.producer_of_ofMarkup hm htree]
  show (Plan.ofTree tree).produce b = _
  rw [Plan.produce, Plan.run_ofTree]

end Faithful

/-- **What an engine renders does not depend on its history.** If an engine that has compiled
nothing compiles a template, then an engine of the same dialect renders it after any calls as a
fresh one does: to the same element, or to the same fault. -/
theorem render_after [Alphabet] [NumberFormat] (dialect : Dialect) (calls : List Call)
    (fragments : List Text) (b : Bindings) {key : Key}
    (h : ((new dialect .plain ()).compile fragments b).1 = .ok key) :
    (((new dialect .plain ()).after calls).render fragments b).1
      = ((new dialect .plain ()).render fragments b).1 := by
  obtain ⟨m, tree, hm, htree⟩ := compile_new_eq_ok h
  have hnew := faithful_new dialect
  calc
    (((new dialect .plain ()).after calls).render fragments b).1
      = (tree.evaluate b).mapError Fault.ofCause := (hnew.after calls).render_of_ofMarkup hm htree
    _ = ((new dialect .plain ()).render fragments b).1 := (hnew.render_of_ofMarkup hm htree).symm

/-- A template after one with the same key, after a failure, and after its key was invoked. -/
theorem render_after_collision :
    ((new .standard .plain ()).compile [txt "<p>BB</p>"] .empty).1
        = .ok (Key.ofText (txt "<p>Aa</p>")) ∧
      (((new .standard .plain ()).after
          [.render [txt "<p>Aa</p>"] .empty, .compile [txt "<p>"] .empty,
            .invoke (Key.ofText (txt "<p>Aa</p>")) .empty]).render [txt "<p>BB</p>"] .empty).1
        = ((new .standard .plain ()).render [txt "<p>BB</p>"] .empty).1 := by
  have h : ((new .standard .plain ()).compile [txt "<p>BB</p>"] .empty).1
      = .ok (Key.ofText (txt "<p>Aa</p>")) := by decide +kernel
  exact ⟨h, render_after .standard _ _ _ h⟩

end Engine

end MarkupTemplate
