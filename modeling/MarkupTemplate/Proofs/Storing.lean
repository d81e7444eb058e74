import Mathlib.Data.List.Dedup
import MarkupTemplate.Proofs.Invoking

/-!
# What a cache holds after a history of puts

    puts ──putAll──▶ cache ──get?──▶ the producer that was put last for a template
                       └────invoke──▶ the producer of the one template that was put under a key

A cache overwrites in place, and keeps templates that share a key side by side. `observe_putAll`
says what can be seen of that from outside: every answer depends only on what was put, as if the
cache were a map from templates to producers, and a key alone stands for a template if and only if
no other template was put under it.

`Holds` is what one put preserves. It says that no template has two entries, which ones have one,
and what a look-up finds.
-/

namespace MarkupTemplate

variable {π : Type}

namespace Entry

/-- The template that an entry is for. -/
def template (e : Entry π) : Key × Text := (e.key, e.identity)

theorem isFor_eq_true_iff {e : Entry π} {key : Key} {identity : Text} :
    e.isFor key identity = true ↔ e.template = (key, identity) := by
  rw [isFor, Bool.and_eq_true, decide_eq_true_eq, decide_eq_true_eq, template, Prod.mk.injEq]

end Entry

namespace Cache

/-! ## What was put -/

/-- The cache after some entries were put in, one after the other. -/
def putAll (c : Cache π) (puts : List (Entry π)) : Cache π :=
  puts.foldl (fun c e => c.put e.key e.identity e.producer) c

/-- The producer that was put last for a template. -/
def lastPut? (puts : List (Entry π)) (key : Key) (identity : Text) : Option π :=
  (puts.reverse.find? (·.isFor key identity)).map Entry.producer

/-- The identities that were put under a key, each once. -/
def identitiesPut (puts : List (Entry π)) (key : Key) : List Text :=
  ((puts.filter (·.key = key)).map Entry.identity).dedup

theorem lastPut?_concat (puts : List (Entry π)) (e : Entry π) (key : Key) (identity : Text) :
    lastPut? (puts ++ [e]) key identity =
      if e.key = key ∧ e.identity = identity then some e.producer
      else lastPut? puts key identity := by
  rw [lastPut?, List.reverse_concat, List.find?_cons]
  by_cases he : e.key = key ∧ e.identity = identity
  · simp [Entry.isFor, he]
  · have hfor : e.isFor key identity = false := by simpa [Entry.isFor] using he
    rw [if_neg he, hfor, lastPut?]

theorem get?_eq_bucket (c : Cache π) (key : Key) (identity : Text) :
    c.get? key identity
      = ((c.bucket key).find? (·.identity = identity)).map Entry.producer := by
  rw [get?, bucket, List.find?_filter]
  simp [Entry.isFor, Bool.decide_and]

theorem mem_identitiesPut {puts : List (Entry π)} {key : Key} {identity : Text} :
    identity ∈ identitiesPut puts key ↔ (key, identity) ∈ puts.map Entry.template := by
  simp [identitiesPut, Entry.template, and_assoc]

/-! ## One put -/

/-- A template that is there keeps its place, and a new one goes to the end. -/
theorem map_template_putEntry (e : Entry π) (l : List (Entry π)) :
    (putEntry e l).map Entry.template =
      if e.template ∈ l.map Entry.template then l.map Entry.template
      else l.map Entry.template ++ [e.template] := by
  induction l with
  | nil => rfl
  | cons d l ih =>
    by_cases hd : d.isFor e.key e.identity
    · have htemplate : d.template = e.template := Entry.isFor_eq_true_iff.mp hd
      simp [putEntry, hd, htemplate]
    · have htemplate : d.template ≠ e.template := fun h => hd (Entry.isFor_eq_true_iff.mpr h)
      rw [putEntry, if_neg hd, List.map_cons, ih, List.map_cons]
      by_cases hmem : e.template ∈ l.map Entry.template
      · rw [if_pos hmem, if_pos (List.mem_cons_of_mem _ hmem)]
      · rw [if_neg hmem, if_neg (by simpa [htemplate.symm] using hmem), List.cons_append]

/-- Whether a cache holds what was put, and nothing else. -/
structure Holds (c : Cache π) (puts : List (Entry π)) : Prop where
  nodup : (c.entries.map Entry.template).Nodup
  mem_iff : ∀ t, t ∈ c.entries.map Entry.template ↔ t ∈ puts.map Entry.template
  get?_eq : ∀ key identity, c.get? key identity = lastPut? puts key identity

namespace Holds

variable {c : Cache π} {puts : List (Entry π)}

theorem empty : (empty : Cache π).Holds [] where
  nodup := List.nodup_nil
  mem_iff _ := Iff.rfl
  get?_eq _ _ := rfl

/-- **One step**: after one more put the cache holds that as well. -/
theorem put (h : c.Holds puts) (e : Entry π) :
    (c.put e.key e.identity e.producer).Holds (puts ++ [e]) where
  nodup := by
    show ((putEntry e c.entries).map Entry.template).Nodup
    rw [map_template_putEntry]
    split
    · exact h.nodup
    · next hnew =>
      rw [← List.concat_eq_append, List.nodup_concat]
      exact ⟨hnew, h.nodup⟩
  mem_iff t := by
    show t ∈ (putEntry e c.entries).map Entry.template ↔ _
    rw [map_template_putEntry, List.map_append, List.mem_append, ← h.mem_iff]
    split
    · next hmem =>
      constructor
      · exact .inl
      · rintro (ht | ht)
        · exact ht
        · rw [List.mem_singleton.mp ht]
          exact hmem
    · exact List.mem_append
  get?_eq key identity := by
    rw [get?_put, lastPut?_concat, h.get?_eq]

/-- **A whole history**: the cache holds all that was put. -/
theorem putAll (h : c.Holds puts) (later : List (Entry π)) :
    (c.putAll later).Holds (puts ++ later) := by
  induction later generalizing c puts with
  | nil =>
    rw [List.append_nil]
    exact h
  | cons e later ih =>
    have := ih (h.put e)
    rwa [List.append_assoc] at this

/-! ## What can be seen from outside -/

theorem size_eq (h : c.Holds puts) : c.size = (puts.map Entry.template).dedup.length := by
  have hperm : (c.entries.map Entry.template).Perm (puts.map Entry.template).dedup := by
    rw [List.perm_ext_iff_of_nodup h.nodup (List.nodup_dedup _)]
    intro t
    rw [h.mem_iff, List.mem_dedup]
  rw [size, ← hperm.length_eq, List.length_map]

/-- The entries under a key are those of the identities that were put under it. -/
theorem map_identity_bucket (h : c.Holds puts) (key : Key) :
    ((c.bucket key).map Entry.identity).Perm (identitiesPut puts key) := by
  have htemplates : (c.bucket key).map Entry.template
      = ((c.bucket key).map Entry.identity).map (key, ·) := by
    rw [List.map_map]
    apply List.map_congr_left
    intro e he
    rw [Entry.template, (mem_bucket.mp he).2]
    rfl
  have hnodup : (((c.bucket key).map Entry.identity).map (key, ·)).Nodup := by
    rw [← htemplates]
    exact h.nodup.sublist (List.filter_sublist.map Entry.template)
  apply (List.perm_ext_iff_of_nodup (hnodup.of_map _) (List.nodup_dedup _)).mpr
  intro identity
  have hmem : (key, identity) ∈ c.entries.map Entry.template
      ↔ identity ∈ (c.bucket key).map Entry.identity := by
    simp [bucket, Entry.template, and_assoc]
  rw [← hmem, h.mem_iff]
  exact mem_identitiesPut.symm

theorem length_bucket (h : c.Holds puts) (key : Key) :
    (c.bucket key).length = (identitiesPut puts key).length := by
  rw [← (h.map_identity_bucket key).length_eq, List.length_map]

theorem contains_iff (h : c.Holds puts) (key : Key) :
    c.contains key = true ↔ ∃ e ∈ puts, e.key = key := by
  have hbucket : c.contains key = true ↔ 0 < (c.bucket key).length := by
    simp [contains, List.length_pos_iff]
  rw [hbucket, h.length_bucket, List.length_pos_iff_exists_mem]
  simp only [mem_identitiesPut, List.mem_map]
  constructor
  · rintro ⟨identity, e, he, htemplate⟩
    exact ⟨e, he, congrArg Prod.fst htemplate⟩
  · rintro ⟨e, he, rfl⟩
    exact ⟨e.identity, e, he, rfl⟩

/-- A key that nothing was put under names no producer. -/
theorem single_of_none (h : c.Holds puts) {key : Key} (hnone : identitiesPut puts key = []) :
    c.single key = .error (.missingProducer key) := by
  have hbucket : c.bucket key = [] := by
    rw [← List.length_eq_zero_iff, h.length_bucket, hnone, List.length_nil]
  rw [single, hbucket]

/-- A key that one template was put under names the producer that was put last for it. -/
theorem single_of_one (h : c.Holds puts) {key : Key} {identity : Text}
    (hone : identitiesPut puts key = [identity]) :
    ∃ producer, lastPut? puts key identity = some producer ∧ c.single key = .ok producer := by
  have hperm := h.map_identity_bucket key
  rw [hone, List.perm_singleton] at hperm
  obtain ⟨e, hbucket, rfl⟩ := List.map_eq_singleton_iff.mp hperm
  refine ⟨e.producer, ?_, by rw [single, hbucket]⟩
  rw [← h.get?_eq, get?_eq_bucket, hbucket]
  simp

/-- A key that several templates were put under names none of them. -/
theorem single_of_several (h : c.Holds puts) {key : Key}
    (hseveral : 2 ≤ (identitiesPut puts key).length) :
    c.single key = .error (.ambiguousKey key (identitiesPut puts key).length) := by
  rw [← h.length_bucket] at hseveral ⊢
  rw [single]
  cases hbucket : c.bucket key with
  | nil => simp [hbucket] at hseveral
  | cons d rest =>
    cases rest with
    | nil => simp [hbucket] at hseveral
    | cons e rest => rfl

end Holds

/-- **A cache is a map from templates to producers**, whatever was put in, in whatever order. A
look-up by key and identity finds the producer that was put last for just these, and there are as
many entries as templates that were put. A key is there if something was put under it. To invoke it
runs the producer if one template was put under the key, and fails if none or several were. -/
theorem observe_putAll (puts : List (Entry Producer)) :
    let c : Cache Producer := empty.putAll puts
    (∀ key identity, c.get? key identity = lastPut? puts key identity) ∧
      c.size = (puts.map Entry.template).dedup.length ∧
      (∀ key, c.contains key = true ↔ ∃ e ∈ puts, e.key = key) ∧
      ∀ key b,
        (∀ identity, identitiesPut puts key = [identity] →
          ∃ producer, lastPut? puts key identity = some producer ∧ c.invoke key b = producer b) ∧
        (2 ≤ (identitiesPut puts key).length → c.invoke key b
          = .error (Fault.ofCause (.ambiguousKey key (identitiesPut puts key).length))) ∧
        (identitiesPut puts key = [] →
          c.invoke key b = .error (Fault.ofCause (.missingProducer key))) := by
  intro c
  have h : c.Holds puts := Holds.empty.putAll puts
  refine ⟨h.get?_eq, h.size_eq, h.contains_iff, fun key b => ⟨?_, ?_, ?_⟩⟩
  · intro identity hone
    obtain ⟨producer, hlast, hsingle⟩ := h.single_of_one hone
    exact ⟨producer, hlast, by rw [invoke, hsingle]⟩
  · intro hseveral
    rw [invoke, h.single_of_several hseveral]
  · intro hnone
    rw [invoke, h.single_of_none hnone]

/-- Two templates under one key, the first of them put again, and one template under another key. -/
theorem observe_putAll_shared :
    let rule : Producer := fun _ => .ok (Rendered.ofTag (txt "hr"))
    let line : Producer := fun _ => .ok (Rendered.ofTag (txt "br"))
    let puts : List (Entry Producer) :=
      [⟨.hash 7, txt "a", rule⟩, ⟨.hash 7, txt "b", rule⟩, ⟨.empty, txt "a", rule⟩,
        ⟨.empty, txt "a", line⟩, ⟨.hash 7, txt "a", line⟩]
    let c : Cache Producer := empty.putAll puts
    c.size = 3 ∧ c.get? (.hash 7) (txt "a") = some line ∧
      identitiesPut puts .empty = [txt "a"] ∧
      c.invoke .empty .empty = .ok (Rendered.ofTag (txt "br")) ∧
      2 ≤ (identitiesPut puts (.hash 7)).length ∧
      c.invoke (.hash 7) .empty = .error (Fault.ofCause (.ambiguousKey (.hash 7) 2)) ∧
      identitiesPut puts (.hash 8) = [] ∧
      c.invoke (.hash 8) .empty = .error (Fault.ofCause (.missingProducer (.hash 8))) := by
  intro rule line puts c
  obtain ⟨hget, hsize, -, hinvoke⟩ := observe_putAll puts
  have hone : identitiesPut puts .empty = [txt "a"] := by decide
  have hseveral : 2 ≤ (identitiesPut puts (.hash 7)).length := by decide
  have hnone : identitiesPut puts (.hash 8) = [] := by decide
  refine ⟨hsize, hget _ _, hone, ?_, hseveral, (hinvoke _ _).2.1 hseveral, hnone,
    (hinvoke _ _).2.2 hnone⟩
  obtain ⟨producer, hlast, hrun⟩ := (hinvoke .empty .empty).1 (txt "a") hone
  cases hlast
  exact hrun

end Cache

end MarkupTemplate
