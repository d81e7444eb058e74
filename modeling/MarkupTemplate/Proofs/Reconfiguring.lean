import MarkupTemplate.Libraries
import MarkupTemplate.Proofs.Assembly
import MarkupTemplate.Proofs.Failing
import MarkupTemplate.Proofs.Invoking

/-!
# Changing the dialect of an engine

    calls in one dialect ──withDialect──▶ calls in another

An engine keeps what it has compiled when its dialect is changed, and an identity tells nothing of
the dialect. A change therefore reaches only those templates that have not been compiled yet; the
others are rendered in the old dialect for as long as the engine lives. `governing` is the dialect
that a template goes by, read off the history alone. `render_following` says that after any calls
and changes the template is rendered as a fresh engine of its governing dialect renders it.
-/

namespace MarkupTemplate

/-! ## What an identity tells about fragments -/

namespace Markup

/-- Assembled markup is that of one list of fragments. -/
theorem fragments_eq_of_assemble {fragments fragments' : List Text} {n n' : Nat} {m : Markup}
    (h : assemble fragments n = .ok m) (h' : assemble fragments' n' = .ok m) :
    fragments = fragments' := by
  have hgaps : ∀ {fragments n}, assemble fragments n = .ok m → m.gaps = fragments.map some := by
    intro fragments n h
    obtain ⟨hn, hlength, rfl⟩ := assemble_eq_ok h
    cases fragments with
    | nil => cases hlength
    | cons fragment fragments =>
      rw [List.length_cons] at hlength
      exact gapsFrom_interleave [] fragment fragments (by omega)
  apply List.map_injective_iff.mpr fun _ _ => Option.some.inj
  rw [← hgaps h, hgaps h']

/-- The text of a template has no NUL but those of its fragments. -/
theorem notMem_text_interleave {fragments : List Text} (h : ∀ t ∈ fragments, '\x00' ∉ t)
    (index : Nat) : '\x00' ∉ (interleave index fragments).text := by
  induction fragments generalizing index with
  | nil => exact List.not_mem_nil
  | cons fragment fragments ih =>
    obtain ⟨hfragment, hrest⟩ := List.forall_mem_cons.mp h
    cases fragments with
    | nil =>
      rw [interleave, text_ofText]
      exact hfragment
    | cons next fragments =>
      have htext : (interleave index (fragment :: next :: fragments)).text
          = fragment ++ ((Slot.ofIndex? index).map Slot.token).getD []
            ++ (interleave (index + 1) (next :: fragments)).text := by
        rw [interleave, text_append, text_append, text_ofText]
        · cases Slot.ofIndex? index <;> simp [Symbol.text]
        · intro h
          cases h
      rw [htext, List.mem_append, List.mem_append]
      rintro ((hmem | hmem) | hmem)
      · exact hfragment hmem
      · cases hslot : Slot.ofIndex? index with
        | none =>
          rw [hslot] at hmem
          cases hmem
        | some s =>
          rw [hslot] at hmem
          exact Slot.notMem_token (by decide) (by decide) s hmem
      · exact ih hrest (index + 1) hmem

/-- A template that is read as a tree has the identity of a template without NUL only if it is that
template. -/
theorem request_eq_of_identity_eq [Alphabet] {dialect : Dialect} {fragments fragments' : List Text}
    {shapes shapes' : List Shape} {m m' : Markup} {tree : Tree}
    (h : assemble fragments shapes.length = .ok m) (hnul : ∀ t ∈ fragments, '\x00' ∉ t)
    (h' : assemble fragments' shapes'.length = .ok m')
    (htree : Tree.ofMarkup dialect shapes' m' = .ok tree)
    (hid : m'.identity shapes' = m.identity shapes) :
    fragments' = fragments ∧ shapes' = shapes := by
  have hvalues : shapes' = [] ↔ shapes = [] := by
    constructor
    · rintro rfl
      by_contra hne
      rw [identity_nil] at hid
      exact text_ne_identity h hne htree hid
    · rintro rfl
      by_contra hne
      rw [identity_nil, identity_of_ne_nil (zip_ne_nil_of_assemble h' hne)] at hid
      obtain ⟨-, -, rfl⟩ := assemble_eq_ok h
      apply notMem_text_interleave hnul 0
      rw [← hid]
      simp
  obtain ⟨rfl, rfl⟩ := eq_of_identity_eq_of_iff h' h hvalues hid
  exact ⟨fragments_eq_of_assemble h' h, rfl⟩

end Markup

/-! ## Events and governing dialects -/

/-- What happens to an engine: a call, or a change of its dialect. -/
inductive Event where
  | call (call : Call)
  | change (dialect : Dialect)

/-- Whether a call asks for a template, with values of the given shapes. -/
def Call.asksFor (fragments : List Text) (shapes : List Shape) (call : Call) : Bool :=
  match call.request? with
  | some (f, b) => f = fragments && b.shapes = shapes
  | none => false

/-- The dialect that a template goes by after events on an engine that did not have it compiled: the
one in which a call could compile it first, and if there was no such call, the last one. -/
def governing [Alphabet] [NumberFormat] (fragments : List Text) (b : Bindings) :
    Dialect → List Event → Dialect
  | dialect, [] => dialect
  | _, .change dialect :: events => governing fragments b dialect events
  | dialect, .call call :: events =>
    if call.asksFor fragments b.shapes
        && ((Engine.new dialect .plain ()).compile fragments b).1.isOk then
      dialect
    else governing fragments b dialect events

theorem Call.exists_request? {fragments : List Text} {shapes : List Shape} {call : Call}
    (h : call.asksFor fragments shapes = true) :
    ∃ b, call.request? = some (fragments, b) ∧ b.shapes = shapes := by
  rw [asksFor] at h
  split at h
  · next f b hrequest =>
    obtain ⟨rfl, hshapes⟩ : f = fragments ∧ b.shapes = shapes := by simpa using h
    exact ⟨b, hrequest, hshapes⟩
  · cases h

namespace Engine

variable {σ : Type}

section

variable [Alphabet]

/-- The engine that an event leaves behind. -/
def meet (engine : Engine σ) : Event → Engine σ
  | .call call => engine.take call
  | .change dialect => engine.withDialect dialect

/-- The engine that events leave behind, one after another. -/
def following (engine : Engine σ) (events : List Event) : Engine σ := events.foldl meet engine

@[simp] theorem following_nil (engine : Engine σ) : engine.following [] = engine := rfl

@[simp] theorem following_cons (engine : Engine σ) (event : Event) (events : List Event) :
    engine.following (event :: events) = (engine.meet event).following events := rfl

/-! ## What becomes of a template that is stored -/

/-- **One step**: what is found stays the same. -/
theorem get?_meet {engine : Engine σ} {key : Key} {identity : Text} {producer : Producer}
    (h : engine.cache.get? key identity = some producer) (event : Event) :
    (engine.meet event).cache.get? key identity = some producer := by
  cases event with
  | change dialect => exact h
  | call call =>
    show (engine.take call).cache.get? key identity = some producer
    cases hattempt : engine.attempt? call with
    | none =>
      rw [take_of_attempt?_eq_none hattempt]
      exact h
    | some a =>
      -- What is stored then was not found before.
      obtain ⟨hmissing, -⟩ := compilations_take hattempt
      rw [cache_take hattempt]
      split
      · rw [Cache.get?_put, if_neg]
        · exact h
        · rintro ⟨rfl, rfl⟩
          rw [h] at hmissing
          cases hmissing
      · exact h

/-- **A whole history**: what is found stays the same. -/
theorem get?_following {engine : Engine σ} {key : Key} {identity : Text} {producer : Producer}
    (h : engine.cache.get? key identity = some producer) (events : List Event) :
    (engine.following events).cache.get? key identity = some producer := by
  induction events generalizing engine with
  | nil =>
    rw [following_nil]
    exact h
  | cons event events ih =>
    rw [following_cons]
    exact ih (get?_meet h event)

end

/-! ## What becomes of a template that is missing -/

section

variable {engine : Engine Unit} {fragments : List Text} {b : Bindings} {m : Markup}

variable [Alphabet] [NumberFormat]

/-- A fresh engine compiles just what is read as a tree. -/
theorem isOk_compile_new_iff (hm : Markup.assemble fragments b.size = .ok m) {dialect : Dialect} :
    ((new dialect .plain ()).compile fragments b).1.isOk = true ↔
      ∃ tree, Tree.ofMarkup dialect b.shapes m = .ok tree := by
  rw [compile_fst, producer_new, hm]
  cases htree : Tree.ofMarkup dialect b.shapes m with
  | error e =>
    simp only [htree]
    constructor
    · intro h
      cases h
    · rintro ⟨tree, h⟩
      cases h
  | ok tree =>
    simp only [htree]
    exact ⟨fun _ => ⟨tree, rfl⟩, fun _ => rfl⟩

/-- What a plain engine attempts is for a template that is read as a tree. -/
theorem attempt?_plain (hhost : engine.host = .plain) {call : Call} {a : Attempt}
    (h : engine.attempt? call = some a) :
    ∃ fragments b m tree, call.request? = some (fragments, b) ∧
      Markup.assemble fragments b.size = .ok m ∧
      Tree.ofMarkup engine.dialect b.shapes m = .ok tree ∧
      a.identity = m.identity b.shapes ∧ a.outcome = .ok (Plan.ofTree tree).produce := by
  obtain ⟨fragments, b, template, hrequest, htask, houtcome⟩ := attempt?_eq_some h
  obtain ⟨m, hm, hid, -, htemplate⟩ := task?_eq_some htask
  obtain ⟨tree, htree, rfl⟩ := Template.compile_eq_ok htemplate
  refine ⟨fragments, b, m, tree, hrequest, hm, htree, hid.symm, ?_⟩
  rw [houtcome, hhost]
  rfl

/-- A call that asks for the template, and can compile it, stores it. -/
theorem get?_take_of_asksFor (hhost : engine.host = .plain)
    (hm : Markup.assemble fragments b.size = .ok m)
    (hmissing : engine.cache.get? (m.key b.shapes) (m.identity b.shapes) = none) {tree : Tree}
    (htree : Tree.ofMarkup engine.dialect b.shapes m = .ok tree) {call : Call}
    (hcall : call.asksFor fragments b.shapes = true) :
    (engine.take call).cache.get? (m.key b.shapes) (m.identity b.shapes)
      = some (Plan.ofTree tree).produce := by
  obtain ⟨b', hrequest, hshapes⟩ := Call.exists_request? hcall
  have hsize : b'.size = b.size := by
    rw [← Bindings.length_shapes, hshapes, Bindings.length_shapes]
  have htask : engine.task? fragments b'
      = some (m.identity b.shapes, .ofTree (m.key b.shapes) tree) := by
    simp only [task?, hsize, hm, hshapes, hmissing, Template.compile_eq, htree]
    rfl
  have hattempt : engine.attempt? call
      = some ⟨m.identity b.shapes, .ok (Plan.ofTree tree).produce⟩ := by
    simp [attempt?, hrequest, htask, hhost, Host.plain, Template.ofTree]
  rw [cache_take hattempt]
  simp only [Cache.get?_put, Markup.key, and_self, if_true]

/-- Every other call leaves the template missing. -/
theorem get?_take_of_not (hhost : engine.host = .plain)
    (hm : Markup.assemble fragments b.size = .ok m) (hnul : ∀ t ∈ fragments, '\x00' ∉ t)
    (hmissing : engine.cache.get? (m.key b.shapes) (m.identity b.shapes) = none) {call : Call}
    (hcall : ¬ (call.asksFor fragments b.shapes = true ∧
      ∃ tree, Tree.ofMarkup engine.dialect b.shapes m = .ok tree)) :
    (engine.take call).cache.get? (m.key b.shapes) (m.identity b.shapes) = none := by
  cases hattempt : engine.attempt? call with
  | none =>
    rw [take_of_attempt?_eq_none hattempt]
    exact hmissing
  | some a =>
    obtain ⟨fragments', b', m', tree, hrequest, hm', htree, hid, houtcome⟩ :=
      attempt?_plain hhost hattempt
    rw [cache_take hattempt, houtcome]
    dsimp only
    rw [Cache.get?_put, if_neg]
    · exact hmissing
    · rintro ⟨-, heq⟩
      -- The template that was stored would be the one that is missing.
      rw [hid] at heq
      rw [← Bindings.length_shapes] at hm hm'
      obtain ⟨rfl, hshapes⟩ := Markup.request_eq_of_identity_eq hm hnul hm' htree heq
      rw [hshapes] at hm' htree
      obtain rfl : m' = m := Except.ok.inj (hm'.symm.trans hm)
      exact hcall ⟨by simp [Call.asksFor, hrequest, hshapes], tree, htree⟩

/-! ## What a template is rendered to -/

/-- A template that is missing is rendered in the dialect of the engine. -/
theorem render_of_missing (hhost : engine.host = .plain)
    (hm : Markup.assemble fragments b.size = .ok m)
    (hmissing : engine.cache.get? (m.key b.shapes) (m.identity b.shapes) = none) :
    (engine.render fragments b).1 = ((new engine.dialect .plain ()).render fragments b).1 := by
  have hmissing' : engine.cache.get? (Key.ofText (m.identity b.shapes)) (m.identity b.shapes)
      = none := hmissing
  have hproducer : (engine.producer fragments b).1
      = ((new engine.dialect .plain ()).producer fragments b).1 := by
    rw [producer_new, producer, hm]
    simp only [hmissing', Template.compile_eq]
    cases Tree.ofMarkup engine.dialect b.shapes m with
    | error e => rfl
    | ok tree =>
      simp only [install_fst, hhost]
      rfl
  rw [render_fst, render_fst, hproducer]

/-- A template that is stored is rendered in the dialect that it was compiled in. -/
theorem render_of_stored {dialect : Dialect} {tree : Tree}
    (hm : Markup.assemble fragments b.size = .ok m)
    (htree : Tree.ofMarkup dialect b.shapes m = .ok tree)
    (hfound : engine.cache.get? (m.key b.shapes) (m.identity b.shapes)
      = some (Plan.ofTree tree).produce) :
    (engine.render fragments b).1 = ((new dialect .plain ()).render fragments b).1 := by
  rw [render_fst, render_fst, producer_of_get? hm hfound, producer_new, hm]
  simp only [htree]

theorem render_following_of_missing (hhost : engine.host = .plain)
    (hm : Markup.assemble fragments b.size = .ok m) (hnul : ∀ t ∈ fragments, '\x00' ∉ t)
    (hmissing : engine.cache.get? (m.key b.shapes) (m.identity b.shapes) = none)
    (events : List Event) :
    ((engine.following events).render fragments b).1
      = ((new (governing fragments b engine.dialect events) .plain ()).render fragments b).1 := by
  induction events generalizing engine with
  | nil => exact render_of_missing hhost hm hmissing
  | cons event events ih =>
    cases event with
    | change dialect => exact ih hhost hmissing
    | call call =>
      rw [following_cons, meet, governing]
      by_cases hcall : call.asksFor fragments b.shapes
          && ((new engine.dialect .plain ()).compile fragments b).1.isOk
      · rw [if_pos hcall]
        obtain ⟨hasks, hok⟩ := Bool.and_eq_true_iff.mp hcall
        obtain ⟨tree, htree⟩ := (isOk_compile_new_iff hm).mp hok
        have hfound := get?_take_of_asksFor hhost hm hmissing htree hasks
        exact render_of_stored hm htree (get?_following hfound events)
      · rw [if_neg hcall]
        have hnot : ¬ (call.asksFor fragments b.shapes = true ∧
            ∃ tree, Tree.ofMarkup engine.dialect b.shapes m = .ok tree) := by
          rw [← isOk_compile_new_iff hm, ← Bool.and_eq_true_iff]
          exact hcall
        have hdialect := (take_keeps engine call).2
        rw [← hdialect]
        have hhost' : (engine.take call).host = .plain := (take_keeps engine call).1.trans hhost
        exact ih hhost' (get?_take_of_not hhost hm hnul hmissing hnot)

end

/-- **What a change of dialect reaches.** After any calls and changes of dialect, an engine renders
a template without NUL as a fresh engine does whose dialect is the governing one of the template:
that in which it was compiled, and the last one only if it was not compiled yet. -/
theorem render_following [Alphabet] [NumberFormat] (dialect : Dialect) (events : List Event)
    (fragments : List Text) (b : Bindings) (hnul : ∀ t ∈ fragments, '\x00' ∉ t) :
    (((new dialect .plain ()).following events).render fragments b).1
      = ((new (governing fragments b dialect events) .plain ()).render fragments b).1 := by
  cases hm : Markup.assemble fragments b.size with
  | error cause =>
    -- Fragments that do not fit are refused whatever the engine has compiled.
    rw [render_fst, render_fst, producer, producer, hm]
  | ok m => exact render_following_of_missing rfl hm hnul (Cache.get?_empty _ _) events

/-- A tag that becomes void after its template was rendered. -/
theorem render_following_icon :
    let icon := Dialect.standard.insert (txt "icon")
    let nav := [txt "<nav><icon><a>home</a></icon></nav>"]
    (∀ t ∈ nav, '\x00' ∉ t) ∧
      (((new .standard .plain ()).following [.call (.render nav .empty), .change icon]).render nav
        .empty).1 = ((new .standard .plain ()).render nav .empty).1 ∧
      (((new .standard .plain ()).following [.call (.compile [txt "<nav>"] .empty),
        .change icon]).render nav .empty).1 = ((new icon .plain ()).render nav .empty).1 := by
  intro icon nav
  have hnul : ∀ t ∈ nav, '\x00' ∉ t := by decide
  have hcompiled := render_following .standard [.call (.render nav .empty), .change icon] nav .empty
    hnul
  have hfailed := render_following .standard [.call (.compile [txt "<nav>"] .empty), .change icon]
    nav .empty hnul
  rw [governing, if_pos (by decide +kernel)] at hcompiled
  rw [governing, if_neg (by decide +kernel)] at hfailed
  exact ⟨hnul, hcompiled, hfailed⟩

/-- So a change of dialect need not take effect: this template is still rendered with the link in
the icon, and not behind it. -/
theorem render_withDialect_ne :
    let icon := Dialect.standard.insert (txt "icon")
    let nav := [txt "<nav><icon><a>home</a></icon></nav>"]
    let engine := ((new .standard .plain ()).after [.render nav .empty]).withDialect icon
    (engine.render nav .empty).1 ≠ ((new icon .plain ()).render nav .empty).1 := by
  intro icon nav engine h
  have hsize := congrArg (fun outcome => outcome.toOption.map (·.elements.length)) h
  have hstale : (engine.render nav .empty).1.toOption.map (·.elements.length) = some 1 := by
    decide +kernel
  have hfresh : ((new icon .plain ()).render nav .empty).1.toOption.map (·.elements.length)
      = some 2 := by
    decide +kernel
  rw [hstale, hfresh] at hsize
  cases hsize

end Engine

end MarkupTemplate
