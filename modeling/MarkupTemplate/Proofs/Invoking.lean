import MarkupTemplate.Libraries
import MarkupTemplate.Proofs.Accounting

/-!
# Invoking the key of a template

    fragments, values ──▶ identity, key ──get?──▶ producer
                                 key ──single──▶ producer, unless templates share the key

A compiled template can be rendered again by its fragments, or invoked by its key alone. The first
way looks for the identity and always finds the template; the second way knows the key only and has
to give up when templates with different identities share it. `invoke_of_compile` says that this is
the only difference, in whatever state an engine is when the key is invoked.
-/

namespace MarkupTemplate

namespace Cache

variable {π : Type}

theorem mem_bucket {c : Cache π} {key : Key} {e : Entry π} :
    e ∈ c.bucket key ↔ e ∈ c.entries ∧ e.key = key := by
  simp [bucket]

/-- A key that two templates share names none of them. -/
theorem single_of_shared {c : Cache π} {key : Key} {d e : Entry π} (hd : d ∈ c.bucket key)
    (he : e ∈ c.bucket key) (hne : d.identity ≠ e.identity) :
    c.single key = .error (.ambiguousKey key (c.bucket key).length) := by
  rw [single]
  cases hbucket : c.bucket key with
  | nil =>
    rw [hbucket] at hd
    cases hd
  | cons x rest =>
    cases rest with
    | nil =>
      rw [hbucket, List.mem_singleton] at hd he
      exact absurd (by rw [hd, he]) hne
    | cons y rest => rfl

/-- A key that one template has alone names the producer that is found for its identity. -/
theorem single_of_alone {c : Cache π} {key : Key} {identity : Text} {producer : π}
    (hnodup : (c.entries.map Entry.identity).Nodup)
    (halone : ∀ e ∈ c.entries, e.key = key → e.identity = identity)
    (hfound : c.get? key identity = some producer) : c.single key = .ok producer := by
  obtain ⟨e, he, hkey, -, rfl⟩ := exists_of_get? hfound
  have hmem : e ∈ c.bucket key := mem_bucket.mpr ⟨he, hkey⟩
  have hsame : ∀ d ∈ c.bucket key, d.identity = identity := by
    intro d hd
    obtain ⟨hd, hkey⟩ := mem_bucket.mp hd
    exact halone d hd hkey
  have hdistinct : ((c.bucket key).map Entry.identity).Nodup :=
    hnodup.sublist (List.filter_sublist.map Entry.identity)
  rw [single]
  cases hbucket : c.bucket key with
  | nil =>
    rw [hbucket] at hmem
    cases hmem
  | cons x rest =>
    rw [hbucket] at hmem hsame hdistinct
    cases rest with
    | nil =>
      obtain rfl := List.mem_singleton.mp hmem
      rfl
    | cons y rest =>
      -- Two entries would have one identity.
      have hxy : x.identity = y.identity := by
        rw [hsame x List.mem_cons_self, hsame y (by simp)]
      simp [hxy] at hdistinct

end Cache

namespace Engine

variable {σ : Type} {engine : Engine σ} {fragments : List Text} {b : Bindings}

/-! ## What stays in the cache -/

/-- A request finds the producer that is stored for its identity. -/
theorem producer_of_get? [Alphabet] {m : Markup} {producer : Producer}
    (hm : Markup.assemble fragments b.size = .ok m)
    (hfound : engine.cache.get? (m.key b.shapes) (m.identity b.shapes) = some producer) :
    engine.producer fragments b = (.ok (m.key b.shapes, producer), engine) := by
  have hfound' : engine.cache.get? (Key.ofText (m.identity b.shapes)) (m.identity b.shapes)
      = some producer := hfound
  rw [Engine.producer, hm]
  simp only [hfound']
  rfl

/-- A key that is answered is that of a template whose identity is stored from then on. -/
theorem compile_eq_ok [Alphabet] {key : Key} (h : (engine.compile fragments b).1 = .ok key) :
    ∃ m, Markup.assemble fragments b.size = .ok m ∧ m.key b.shapes = key ∧
      m.identity b.shapes
        ∈ (engine.take (.compile fragments b)).cache.entries.map Entry.identity := by
  rw [compile_fst] at h
  obtain ⟨⟨key, producer⟩, hproducer, rfl⟩ := map_eq_ok.mp h
  cases htask : engine.task? fragments b with
  | none =>
    obtain ⟨hengine, hfound⟩ := producer_of_task?_eq_none htask
    obtain ⟨m, hm, rfl, hget⟩ := hfound key producer hproducer
    obtain ⟨e, he, -, hid, -⟩ := Cache.exists_of_get? hget
    rw [take_of_request? rfl, hengine]
    exact ⟨m, hm, rfl, List.mem_map.mpr ⟨e, he, hid⟩⟩
  | some task =>
    obtain ⟨identity, template⟩ := task
    obtain ⟨m, hm, rfl, -, htemplate⟩ := task?_eq_some htask
    obtain ⟨tree, -, rfl⟩ := Template.compile_eq_ok htemplate
    rw [producer_of_task? htask, install_fst] at hproducer
    split at hproducer
    · next installed houtcome =>
      cases hproducer
      have hattempt : engine.attempt? (.compile fragments b)
          = some ⟨m.identity b.shapes, .ok producer⟩ := by
        simp [attempt?, Call.request?, htask, houtcome]
      refine ⟨m, hm, rfl, ?_⟩
      rw [entries_take hattempt]
      simp
    · cases hproducer

namespace Accounts

variable {done : List Attempt}

/-- What is stored stays stored. -/
theorem mem_identities_after [Alphabet] (h : engine.Accounts done) (calls : List Call)
    {identity : Text} (hmem : identity ∈ engine.cache.entries.map Entry.identity) :
    identity ∈ (engine.after calls).cache.entries.map Entry.identity := by
  rw [h.identities_eq] at hmem
  rw [(h.after calls).identities_eq, Attempt.installed_append]
  exact List.mem_append_left _ hmem

/-- Under the key of an identity that is stored a producer is found. -/
theorem exists_get? (h : engine.Accounts done) {identity : Text}
    (hmem : identity ∈ engine.cache.entries.map Entry.identity) :
    ∃ producer, engine.cache.get? (Key.ofText identity) identity = some producer := by
  rw [h.identities_eq] at hmem
  apply Option.ne_none_iff_exists'.mp
  rw [Ne, h.get?_eq_none_iff]
  exact not_not_intro hmem

end Accounts

/-- **To invoke the key of a template is to render it.** Suppose that a template was compiled at
some time under a key, and take values of the same shapes. If a template with another identity is
stored under that key, then invoking it fails and says that the key is ambiguous. Otherwise invoking
the key answers what rendering the fragments answers. -/
theorem invoke_of_compile [Alphabet] (dialect : Dialect) (host : Host σ) (state : σ)
    (before later : List Call) (fragments : List Text) {b b' : Bindings} {key : Key}
    (h : (((new dialect host state).after before).compile fragments b).1 = .ok key)
    (hshapes : b'.shapes = b.shapes) :
    let engine := (new dialect host state).after (before ++ .compile fragments b :: later)
    ∃ m, Markup.assemble fragments b.size = .ok m ∧
      ((∃ e ∈ engine.cache.entries, e.key = key ∧ e.identity ≠ m.identity b.shapes) →
        engine.invoke key b'
          = .error (Fault.ofCause (.ambiguousKey key (engine.cache.bucket key).length))) ∧
      ((∀ e ∈ engine.cache.entries, e.key = key → e.identity = m.identity b.shapes) →
        engine.invoke key b' = (engine.render fragments b').1) := by
  intro engine
  have hbefore := (Accounts.new dialect host state).after before
  obtain ⟨m, hm, rfl, hstored⟩ := compile_eq_ok h
  -- The template is found in whatever state the key is invoked.
  have hengine : engine
      = (((new dialect host state).after before).take (.compile fragments b)).after later := by
    simp [engine, after, List.foldl_append]
  have haccounts : engine.Accounts _ := hengine ▸ (hbefore.take _).after later
  have hstored : m.identity b.shapes ∈ engine.cache.entries.map Entry.identity :=
    hengine ▸ (hbefore.take _).mem_identities_after later hstored
  obtain ⟨producer, hfound⟩ := haccounts.exists_get? hstored
  obtain ⟨e, he, hkey, hid, -⟩ := Cache.exists_of_get? hfound
  refine ⟨m, hm, ?_, ?_⟩
  · rintro ⟨d, hd, hdkey, hne⟩
    have hsingle := Cache.single_of_shared (Cache.mem_bucket.mpr ⟨hd, hdkey⟩)
      (Cache.mem_bucket.mpr ⟨he, hkey⟩) (hid ▸ hne)
    rw [invoke, Cache.invoke, hsingle]
  · intro halone
    have hnodup := haccounts.identities_eq ▸ haccounts.nodup
    have hsize : b'.size = b.size := by
      rw [← Bindings.length_shapes, hshapes, Bindings.length_shapes]
    have hrender : engine.producer fragments b' = (.ok (m.key b'.shapes, producer), engine) :=
      producer_of_get? (hsize ▸ hm) (hshapes ▸ hfound)
    rw [invoke, Cache.invoke, Cache.single_of_alone hnodup halone hfound, render_fst, hrender]
    rfl

/-- A template is invoked with another value than it was compiled for, once alone under its key and
once after a template with the same key was rendered. -/
theorem invoke_of_compile_shared :
    let fresh := new .standard .plain ()
    let hello : Call := .compile [txt "<p>", txt "</p>"] ⟨[.string (txt "x")]⟩
    let key := (Markup.interleave 0 [txt "<p>", txt "</p>"]).key [.scalar]
    let alone := fresh.after ([] ++ hello :: [.render [txt "<p>Aa</p>"] .empty])
    let shared := fresh.after ([.render [txt "<p>Aa</p>"] .empty] ++
      .compile [txt "<p>BB</p>"] .empty :: [])
    (fresh.compile [txt "<p>", txt "</p>"] ⟨[.string (txt "x")]⟩).1 = .ok key ∧
      (⟨[.null]⟩ : Bindings).shapes = (⟨[.string (txt "x")]⟩ : Bindings).shapes ∧
      alone.invoke key ⟨[.null]⟩ = (alone.render [txt "<p>", txt "</p>"] ⟨[.null]⟩).1 ∧
      shared.invoke (Key.ofText (txt "<p>BB</p>")) .empty
        = .error (Fault.ofCause (.ambiguousKey (Key.ofText (txt "<p>BB</p>")) 2)) := by
  intro fresh hello key alone shared
  have hkey : (fresh.compile [txt "<p>", txt "</p>"] ⟨[.string (txt "x")]⟩).1 = .ok key := by
    decide +kernel
  have hshapes : (⟨[.null]⟩ : Bindings).shapes = (⟨[.string (txt "x")]⟩ : Bindings).shapes := rfl
  have hshared : ((fresh.after [.render [txt "<p>Aa</p>"] .empty]).compile
      [txt "<p>BB</p>"] .empty).1 = .ok (Key.ofText (txt "<p>BB</p>")) := by
    decide +kernel
  obtain ⟨m, hm, -, hrender⟩ := invoke_of_compile .standard .plain () []
    [.render [txt "<p>Aa</p>"] .empty] _ hkey hshapes
  obtain ⟨m', hm', hambiguous, -⟩ := invoke_of_compile .standard .plain ()
    [.render [txt "<p>Aa</p>"] .empty] [] _ hshared rfl
  cases hm
  cases hm'
  refine ⟨hkey, hshapes, hrender ?_, ?_⟩
  · decide +kernel
  · have hsize : (shared.cache.bucket (Key.ofText (txt "<p>BB</p>"))).length = 2 := by
      decide +kernel
    rw [← hsize]
    exact hambiguous (by decide +kernel)

end Engine

end MarkupTemplate
