import Mathlib.Data.List.Dedup
import MarkupTemplate.Libraries
import MarkupTemplate.Proofs.History

/-!
# What an engine has compiled

    fragments, values ──task?──▶ identity, program ──install──▶ a producer, or a refusal

A request reaches the host of an engine only if its markup can be assembled and read, and if no
producer is stored for its identity. `task?` is the program that the host is then asked to install,
and `attempts` are all such programs of a history with what became of them.

The cache and the counter of an engine are accounts of these attempts: every attempt is counted, and
every one that succeeds is stored, under an identity of its own. `compilations_after` states the
balance after any history, for any host.
-/

namespace MarkupTemplate

/-- The fragments and the values of the template that a call asks for. To invoke a key asks for
none. -/
def Call.request? : Call → Option (List Text × Bindings)
  | render fragments b => some (fragments, b)
  | compile fragments b => some (fragments, b)
  | invoke _ _ => none

/-- An identity whose program a host was asked to install, and what it answered. -/
structure Attempt where
  identity : Text
  outcome : Except Fault Producer

namespace Attempt

def succeeded (a : Attempt) : Bool := a.outcome.isOk

/-- The identities of the programs that were installed. -/
def installed (attempts : List Attempt) : List Text := (attempts.filter succeeded).map identity

@[simp] theorem installed_nil : installed [] = [] := rfl

theorem installed_append (l m : List Attempt) :
    installed (l ++ m) = installed l ++ installed m := by
  simp [installed]

end Attempt

/-- What is compiled is the program of the tree that the markup is read as. -/
theorem Template.compile_eq_ok [Alphabet] {dialect : Dialect} {shapes : List Shape} {key : Key}
    {m : Markup} {template : Template} (h : compile dialect shapes key m = .ok template) :
    ∃ tree, Tree.ofMarkup dialect shapes m = .ok tree ∧ template = ofTree key tree := by
  rw [compile_eq] at h
  split at h
  · next tree htree =>
    cases h
    exact ⟨tree, htree, rfl⟩
  · cases h

namespace Engine

variable {σ : Type}

section

variable [Alphabet]

/-- The program that a request leaves to the host, with the identity of its template. There is none
if the request fails before that, or if a producer is found. -/
def task? (engine : Engine σ) (fragments : List Text) (b : Bindings) : Option (Text × Template) :=
  match Markup.assemble fragments b.size with
  | .error _ => none
  | .ok m =>
    match engine.cache.get? (m.key b.shapes) (m.identity b.shapes) with
    | some _ => none
    | none =>
      (Template.compile engine.dialect b.shapes (m.key b.shapes) m).toOption.map
        (m.identity b.shapes, ·)

/-- The attempt that a call makes, if it makes one. -/
def attempt? (engine : Engine σ) (call : Call) : Option Attempt := do
  let (fragments, b) ← call.request?
  let (identity, template) ← engine.task? fragments b
  return ⟨identity, (engine.host.install template engine.state).1⟩

/-- The attempts that calls make, one after another. -/
def attempts : Engine σ → List Call → List Attempt
  | _, [] => []
  | engine, call :: calls => (engine.attempt? call).toList ++ (engine.take call).attempts calls

/-! ## What one call does -/

/-- A template that is left to the host was not stored, and it was compiled under its own key. -/
theorem task?_eq_some {engine : Engine σ} {fragments : List Text} {b : Bindings} {identity : Text}
    {template : Template} (h : engine.task? fragments b = some (identity, template)) :
    ∃ m, Markup.assemble fragments b.size = .ok m ∧ m.identity b.shapes = identity ∧
      engine.cache.get? (Key.ofText identity) identity = none ∧
      Template.compile engine.dialect b.shapes (Key.ofText identity) m = .ok template := by
  rw [task?] at h
  split at h
  · cases h
  · next m hm =>
    split at h
    · cases h
    · next hmissing =>
      obtain ⟨template', htemplate, h⟩ := Option.map_eq_some_iff.mp h
      cases h
      refine ⟨m, hm, rfl, hmissing, ?_⟩
      cases hcompile : Template.compile engine.dialect b.shapes (m.key b.shapes) m with
      | error fault =>
        rw [hcompile] at htemplate
        cases htemplate
      | ok template =>
        rw [hcompile] at htemplate
        cases htemplate
        exact hcompile

/-- A request that leaves nothing to the host leaves the engine as it is. It fails, unless a
producer is found. -/
theorem producer_of_task?_eq_none {engine : Engine σ} {fragments : List Text} {b : Bindings}
    (h : engine.task? fragments b = none) :
    (engine.producer fragments b).2 = engine ∧
      ∀ key producer, (engine.producer fragments b).1 = .ok (key, producer) →
        ∃ m, Markup.assemble fragments b.size = .ok m ∧ key = m.key b.shapes ∧
          engine.cache.get? key (m.identity b.shapes) = some producer := by
  rw [task?] at h
  rw [producer]
  cases hm : Markup.assemble fragments b.size with
  | error cause => exact ⟨rfl, fun _ _ hok => by cases hok⟩
  | ok m =>
    rw [hm] at h
    simp only [Markup.key] at h
    cases hfound : engine.cache.get? (Key.ofText (m.identity b.shapes)) (m.identity b.shapes) with
    | some producer =>
      refine ⟨by simp only [hfound], fun key _ hok => ?_⟩
      simp only [hfound] at hok
      cases hok
      exact ⟨m, rfl, rfl, hfound⟩
    | none =>
      simp only [hfound] at h ⊢
      cases hcompile :
          Template.compile engine.dialect b.shapes (Key.ofText (m.identity b.shapes)) m with
      | error fault => exact ⟨rfl, fun _ _ hok => by cases hok⟩
      | ok template =>
        rw [hcompile] at h
        cases h

/-- Otherwise the program is installed. -/
theorem producer_of_task? {engine : Engine σ} {fragments : List Text} {b : Bindings}
    {identity : Text} {template : Template}
    (h : engine.task? fragments b = some (identity, template)) :
    engine.producer fragments b = engine.install identity template := by
  obtain ⟨m, hm, rfl, hmissing, htemplate⟩ := task?_eq_some h
  rw [producer, hm]
  simp only [hmissing, htemplate]

end

/-- Whether a producer is answered is up to the host. Its refusal is named after the template. -/
theorem install_fst (engine : Engine σ) (identity : Text) (template : Template) :
    (engine.install identity template).1 =
      match (engine.host.install template engine.state).1 with
      | .ok producer => .ok (template.key, producer)
      | .error fault => .error (fault.named template.key) := by
  rw [install]
  dsimp only
  split <;> next h => rw [h]

theorem compilations_install (engine : Engine σ) (identity : Text) (template : Template) :
    (engine.install identity template).2.compilations = engine.compilations + 1 := by
  rw [install]
  dsimp only
  split <;> rfl

/-- What is installed is stored, and a refusal leaves the cache as it is. -/
theorem cache_install (engine : Engine σ) (identity : Text) (template : Template) :
    (engine.install identity template).2.cache =
      match (engine.host.install template engine.state).1 with
      | .ok producer => engine.cache.put template.key identity producer
      | .error _ => engine.cache := by
  rw [install]
  dsimp only
  split <;> next h => rw [h]

section

variable [Alphabet]

theorem take_of_request? {engine : Engine σ} {call : Call} {fragments : List Text} {b : Bindings}
    (h : call.request? = some (fragments, b)) :
    engine.take call = (engine.producer fragments b).2 := by
  cases call with
  | render fragments b =>
    cases h
    exact render_snd engine _ _
  | compile fragments b =>
    cases h
    exact compile_snd engine _ _
  | invoke key b => cases h

/-- A call that attempts nothing leaves the engine as it is. -/
theorem take_of_attempt?_eq_none {engine : Engine σ} {call : Call}
    (h : engine.attempt? call = none) : engine.take call = engine := by
  cases hrequest : call.request? with
  | none =>
    cases call with
    | render fragments b => cases hrequest
    | compile fragments b => cases hrequest
    | invoke key b => rfl
  | some request =>
    obtain ⟨fragments, b⟩ := request
    rw [take_of_request? hrequest]
    cases htask : engine.task? fragments b with
    | none => exact (producer_of_task?_eq_none htask).1
    | some task => simp [attempt?, hrequest, htask] at h

/-- What stands behind an attempt: a request whose program the host was asked to install. -/
theorem attempt?_eq_some {engine : Engine σ} {call : Call} {a : Attempt}
    (h : engine.attempt? call = some a) :
    ∃ fragments b template, call.request? = some (fragments, b) ∧
      engine.task? fragments b = some (a.identity, template) ∧
      a.outcome = (engine.host.install template engine.state).1 := by
  obtain ⟨⟨fragments, b⟩, hrequest, h⟩ := Option.bind_eq_some_iff.mp h
  obtain ⟨⟨identity, template⟩, htask, h⟩ := Option.bind_eq_some_iff.mp h
  cases h
  exact ⟨fragments, b, template, hrequest, htask, rfl⟩

/-- An attempt is for a template that is not stored, and it is counted. -/
theorem compilations_take {engine : Engine σ} {call : Call} {a : Attempt}
    (h : engine.attempt? call = some a) :
    engine.cache.get? (Key.ofText a.identity) a.identity = none ∧
      (engine.take call).compilations = engine.compilations + 1 := by
  obtain ⟨fragments, b, template, hrequest, htask, -⟩ := attempt?_eq_some h
  obtain ⟨m, -, -, hmissing, -⟩ := task?_eq_some htask
  refine ⟨hmissing, ?_⟩
  rw [take_of_request? hrequest, producer_of_task? htask, compilations_install]

/-- An attempt that succeeds is stored, and nothing else changes in the cache. -/
theorem cache_take {engine : Engine σ} {call : Call} {a : Attempt}
    (h : engine.attempt? call = some a) :
    (engine.take call).cache = match a.outcome with
      | .ok producer => engine.cache.put (Key.ofText a.identity) a.identity producer
      | .error _ => engine.cache := by
  obtain ⟨fragments, b, template, hrequest, htask, houtcome⟩ := attempt?_eq_some h
  obtain ⟨m, -, -, -, htemplate⟩ := task?_eq_some htask
  obtain ⟨tree, -, rfl⟩ := Template.compile_eq_ok htemplate
  rw [take_of_request? hrequest, producer_of_task? htask, cache_install, ← houtcome]
  rfl

/-- What was installed is stored behind everything else. -/
theorem entries_take {engine : Engine σ} {call : Call} {identity : Text} {producer : Producer}
    (h : engine.attempt? call = some ⟨identity, .ok producer⟩) :
    (engine.take call).cache.entries
      = engine.cache.entries ++ [⟨Key.ofText identity, identity, producer⟩] := by
  obtain ⟨hmissing, -⟩ := compilations_take h
  rw [cache_take h]
  exact Cache.entries_put hmissing producer

/-- A refusal leaves the cache as it is. -/
theorem cache_take_of_refused {engine : Engine σ} {call : Call} {identity : Text} {fault : Fault}
    (h : engine.attempt? call = some ⟨identity, .error fault⟩) :
    (engine.take call).cache = engine.cache :=
  cache_take h

end

/-! ## Accounts -/

/-- What the cache and the counter of an engine say about the attempts that were made on it. -/
structure Accounts (engine : Engine σ) (attempts : List Attempt) : Prop where
  compilations_eq : engine.compilations = attempts.length
  identities_eq : engine.cache.entries.map Entry.identity = Attempt.installed attempts
  nodup : (Attempt.installed attempts).Nodup
  key_eq : ∀ e ∈ engine.cache.entries, e.key = Key.ofText e.identity

namespace Accounts

variable {engine : Engine σ} {done : List Attempt}

theorem new (dialect : Dialect) (host : Host σ) (state : σ) :
    (Engine.new dialect host state).Accounts [] where
  compilations_eq := rfl
  identities_eq := rfl
  nodup := List.nodup_nil
  key_eq := by
    intro e he
    cases he

/-- A template is stored if and only if its identity is found. -/
theorem get?_eq_none_iff (h : engine.Accounts done) {identity : Text} :
    engine.cache.get? (Key.ofText identity) identity = none ↔
      identity ∉ Attempt.installed done := by
  rw [Cache.get?_eq_none_iff, ← h.identities_eq, List.mem_map]
  constructor
  · rintro hall ⟨e, he, rfl⟩
    exact hall e he ⟨h.key_eq e he, rfl⟩
  · rintro hnot e he ⟨-, hid⟩
    exact hnot ⟨e, he, hid⟩

variable [Alphabet]

/-- **One step**: a call adds the attempt that it makes. -/
theorem take (h : engine.Accounts done) (call : Call) :
    (engine.take call).Accounts (done ++ (engine.attempt? call).toList) := by
  cases hattempt : engine.attempt? call with
  | none =>
    rw [take_of_attempt?_eq_none hattempt, Option.toList_none, List.append_nil]
    exact h
  | some a =>
    obtain ⟨hmissing, hcount⟩ := compilations_take hattempt
    have hcompilations : (engine.take call).compilations = (done ++ [a]).length := by
      rw [hcount, h.compilations_eq, List.length_append, List.length_singleton]
    obtain ⟨identity, outcome⟩ := a
    cases outcome with
    | error fault =>
      have hcache := cache_take_of_refused hattempt
      have hinstalled : Attempt.installed (done ++ [⟨identity, .error fault⟩])
          = Attempt.installed done := by
        rw [Attempt.installed_append]
        exact List.append_nil _
      refine ⟨hcompilations, ?_, ?_, ?_⟩
      · rw [hcache, h.identities_eq]
        exact hinstalled.symm
      · exact hinstalled.symm ▸ h.nodup
      · rw [hcache]
        exact h.key_eq
    | ok producer =>
      have hentries := entries_take hattempt
      have hinstalled : Attempt.installed (done ++ [⟨identity, .ok producer⟩])
          = Attempt.installed done ++ [identity] := Attempt.installed_append done _
      refine ⟨hcompilations, ?_, ?_, ?_⟩
      · rw [hentries, List.map_append, h.identities_eq]
        exact hinstalled.symm
      · -- The identity is new, since nothing was found under it.
        have hnew : identity ∉ Attempt.installed done := h.get?_eq_none_iff.mp hmissing
        rw [Option.toList_some, hinstalled, ← List.concat_eq_append, List.nodup_concat]
        exact ⟨hnew, h.nodup⟩
      · rw [hentries, List.forall_mem_append, List.forall_mem_singleton]
        exact ⟨h.key_eq, rfl⟩

/-- **A whole history**: the accounts hold all attempts. -/
theorem after (h : engine.Accounts done) (calls : List Call) :
    (engine.after calls).Accounts (done ++ engine.attempts calls) := by
  induction calls generalizing engine done with
  | nil =>
    rw [after_nil, attempts, List.append_nil]
    exact h
  | cons call calls ih =>
    rw [after_cons, attempts, ← List.append_assoc]
    exact ih (h.take call)

/-- A call for a template that is stored attempts nothing. -/
theorem attempt?_eq_none (h : engine.Accounts done) {call : Call} {fragments : List Text}
    {b : Bindings} {m : Markup} (hrequest : call.request? = some (fragments, b))
    (hm : Markup.assemble fragments b.size = .ok m)
    (hstored : ∃ e ∈ engine.cache.entries, e.identity = m.identity b.shapes) :
    engine.attempt? call = none := by
  cases hattempt : engine.attempt? call with
  | none => rfl
  | some a =>
    exfalso
    obtain ⟨fragments', b', template, hrequest', htask, -⟩ := attempt?_eq_some hattempt
    obtain ⟨rfl, rfl⟩ := Prod.mk.inj (Option.some.inj (hrequest.symm.trans hrequest'))
    obtain ⟨m', hm', hid, hmissing, -⟩ := task?_eq_some htask
    obtain rfl : m = m' := Except.ok.inj (hm.symm.trans hm')
    rw [← hid, h.get?_eq_none_iff, ← h.identities_eq, List.mem_map] at hmissing
    exact hmissing hstored

end Accounts

/-- **A template is compiled once.** After any history, the counter of an engine is the number of
producers in its cache and of attempts that its host refused. There is one producer in the cache for
each identity whose program was installed. And a call for a template that is stored changes neither
the cache nor the counter, nor anything else about the engine. -/
theorem compilations_after [Alphabet] (dialect : Dialect) (host : Host σ) (state : σ)
    (calls : List Call) :
    let engine := (new dialect host state).after calls
    let attempts := (new dialect host state).attempts calls
    engine.compilations = engine.cache.size + attempts.countP (!·.succeeded) ∧
      engine.cache.size = (Attempt.installed attempts).dedup.length ∧
      ∀ call fragments b m, Call.request? call = some (fragments, b) →
        Markup.assemble fragments b.size = .ok m →
        (∃ e ∈ engine.cache.entries, e.identity = m.identity b.shapes) →
        engine.take call = engine := by
  intro engine attempts
  have haccounts : engine.Accounts attempts := (Accounts.new dialect host state).after calls
  have hsize : engine.cache.size = (Attempt.installed attempts).length := by
    rw [← haccounts.identities_eq, List.length_map, Cache.size]
  refine ⟨?_, ?_, ?_⟩
  · have hinstalled : (Attempt.installed attempts).length = attempts.countP Attempt.succeeded := by
      rw [Attempt.installed, List.length_map, List.countP_eq_length_filter]
    rw [haccounts.compilations_eq, hsize, hinstalled,
      List.length_eq_countP_add_countP Attempt.succeeded]
    simp
  · rw [hsize, haccounts.nodup.dedup]
  · intro call fragments b m hrequest hm hstored
    exact take_of_attempt?_eq_none (haccounts.attempt?_eq_none hrequest hm hstored)

/-- A template that a host refuses at first, one with the same key, and one that cannot be read. Of
the three programs the host was asked to install two are stored, and are not compiled again. -/
theorem compilations_after_refusal :
    let host : Host Bool :=
      ⟨fun template ready =>
        (if ready then .ok template.plan.produce else .error (Fault.ofCause .missingRoot), true)⟩
    let calls : List Call :=
      [.render [txt "<p>Aa</p>"] .empty, .render [txt "<p>Aa</p>"] .empty,
        .compile [txt "<p>BB</p>"] .empty, .compile [txt "<p>"] .empty]
    let engine := (new .standard host false).after calls
    let known : Call := .render [txt "<p>Aa</p>"] .empty
    known.request? = some ([txt "<p>Aa</p>"], .empty) ∧
      Markup.assemble [txt "<p>Aa</p>"] Bindings.empty.size
        = .ok (Markup.ofText (txt "<p>Aa</p>")) ∧
      (∃ e ∈ engine.cache.entries,
        e.identity = (Markup.ofText (txt "<p>Aa</p>")).identity Bindings.empty.shapes) ∧
      engine.take known = engine ∧ engine.compilations = 3 ∧ engine.cache.size = 2 := by
  intro host calls engine known
  obtain ⟨hcount, hsize, hknown⟩ := compilations_after .standard host false calls
  have hrefused : ((new .standard host false).attempts calls).countP (!·.succeeded) = 1 := by
    decide +kernel
  have hinstalled : (Attempt.installed ((new .standard host false).attempts calls)).dedup.length
      = 2 := by decide +kernel
  have hstored : ∃ e ∈ engine.cache.entries,
      e.identity = (Markup.ofText (txt "<p>Aa</p>")).identity Bindings.empty.shapes := by
    decide +kernel
  have hengine : engine.cache.size = 2 := hsize.trans hinstalled
  refine ⟨rfl, rfl, hstored, hknown known _ _ _ rfl rfl hstored, ?_, hengine⟩
  rw [hrefused] at hcount
  exact hcount.trans (by rw [hengine])

end Engine

end MarkupTemplate
