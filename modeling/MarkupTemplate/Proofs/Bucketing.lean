import Mathlib.Algebra.BigOperators.Group.List.Lemmas
import MarkupTemplate.Buckets
import MarkupTemplate.Proofs.Storing

/-!
# A cache as a table of buckets

    puts ──putAll──▶ buckets ──get?, contains, single──▶ answers
              └────▶ cache ─────get?, contains, single──▶ the same answers

A cache is a list of entries in the order of their first puts. `Buckets` is the table that keeps
them apart by key. `Represents` says that under each key the table has the entries of that key, in
the order of the cache. One put preserves it, and so does a whole history, so that the answers of a
table are those of the cache: `answers_putAll`.
-/

namespace MarkupTemplate

variable {π : Type}

/-- What a bucket has of an entry. -/
def Entry.stored (e : Entry π) : Stored π := ⟨e.identity, e.producer⟩

/-! ## Keys in order, each once -/

namespace Key

theorem le_trans (j k l : Key) (hjk : j.le k = true) (hkl : k.le l = true) : j.le l = true := by
  cases j <;> cases k <;> cases l <;> grind [le]

theorem le_total (k l : Key) : (k.le l || l.le k) = true := by
  cases k <;> cases l <;> grind [le]

theorem le_antisymm {k l : Key} (hkl : k.le l = true) (hlk : l.le k = true) : k = l := by
  cases k <;> cases l <;> grind [le, Int32.toInt_inj]

theorem nodup_eraseDups (l : List Key) : l.eraseDups.Nodup := by
  cases l with
  | nil => exact List.nodup_nil
  | cons k l =>
    rw [List.eraseDups_cons]
    refine List.nodup_cons.mpr ⟨?_, nodup_eraseDups (l.filter fun x => !x == k)⟩
    simp [List.mem_eraseDups]
termination_by l.length
decreasing_by exact Nat.lt_succ_of_le (List.length_filter_le _ _)

end Key

namespace Cache

/-! ## The entries of one key -/

/-- An entry is put among those of its own key. -/
theorem filter_putEntry (e : Entry π) (l : List (Entry π)) :
    (putEntry e l).filter (·.key = e.key) = putEntry e (l.filter (·.key = e.key)) := by
  induction l with
  | nil => simp [putEntry]
  | cons d l ih =>
    by_cases hd : d.isFor e.key e.identity
    · have hkey : d.key = e.key := congrArg Prod.fst (Entry.isFor_eq_true_iff.mp hd)
      simp [putEntry, hd, hkey]
    · rw [putEntry, if_neg hd]
      by_cases hkey : d.key = e.key
      · simp [hkey, ih, putEntry, hd]
      · simp [hkey, ih]

/-- The other keys keep their entries. -/
theorem filter_putEntry_of_ne {e : Entry π} {key : Key} (h : key ≠ e.key) (l : List (Entry π)) :
    (putEntry e l).filter (·.key = key) = l.filter (·.key = key) := by
  induction l with
  | nil => simp [putEntry, h.symm]
  | cons d l ih =>
    by_cases hd : d.isFor e.key e.identity
    · have hkey : d.key = e.key := congrArg Prod.fst (Entry.isFor_eq_true_iff.mp hd)
      simp [putEntry, hd, hkey, h.symm]
    · rw [putEntry, if_neg hd, List.filter_cons, List.filter_cons, ih]

/-- In a bucket the identity alone says which entry gives way. -/
theorem map_stored_putEntry {e : Entry π} {l : List (Entry π)} (h : ∀ d ∈ l, d.key = e.key) :
    (putEntry e l).map Entry.stored = storeIn e.identity e.producer (l.map Entry.stored) := by
  induction l with
  | nil => rfl
  | cons d l ih =>
    obtain ⟨hd, hl⟩ := List.forall_mem_cons.mp h
    by_cases hid : d.identity = e.identity
    · simp [putEntry, storeIn, Entry.isFor, Entry.stored, hd, hid]
    · simp [putEntry, storeIn, Entry.isFor, Entry.stored, hd, hid, ih hl]

theorem bucket_put (c : Cache π) (key : Key) (identity : Text) (producer : π) (k : Key) :
    ((c.put key identity producer).bucket k).map Entry.stored =
      if k = key then storeIn identity producer ((c.bucket key).map Entry.stored)
      else (c.bucket k).map Entry.stored := by
  by_cases h : k = key
  · subst h
    have hfilter := filter_putEntry ⟨k, identity, producer⟩ c.entries
    rw [if_pos rfl, bucket, put, hfilter]
    exact map_stored_putEntry fun d hd => (mem_bucket.mp hd).2
  · rw [if_neg h, bucket, put, filter_putEntry_of_ne h, bucket]

end Cache

namespace Buckets

/-- A bucket stands under its own key. -/
theorem under?_of_mem {m : Buckets π} {e : Key × List (Stored π)} (h : e ∈ m.table) :
    m.under? e.1 = some e.2 := by
  obtain ⟨before, behind, htable⟩ := List.append_of_mem h
  refine List.lookup_eq_some_iff.mpr ⟨before, behind, htable, fun d hd => bne_iff_ne.mpr ?_⟩
  have hnodup := m.nodup
  rw [htable, List.map_append, List.nodup_append] at hnodup
  exact (hnodup.2.2 _ (List.mem_map_of_mem hd) _ List.mem_cons_self).symm

theorem isSome_under?_iff {m : Buckets π} {key : Key} :
    (m.under? key).isSome = true ↔ key ∈ m.table.map Prod.fst := by
  rw [under?, List.lookup_isSome_iff, List.mem_map]
  simp only [beq_iff_eq, eq_comm (a := key)]

theorem storeIn_ne_nil (identity : Text) (producer : π) (l : List (Stored π)) :
    storeIn identity producer l ≠ [] := by
  cases l with
  | nil => exact List.cons_ne_nil _ _
  | cons s l =>
    rw [storeIn]
    split <;> exact List.cons_ne_nil _ _

/-- The buckets after some entries were put in, one after the other. -/
def putAll (m : Buckets π) (puts : List (Entry π)) : Buckets π :=
  puts.foldl (fun m e => m.put e.key e.identity e.producer) m

/-- Whether each key has the entries of a cache with that key, and only keys with entries have a
bucket. -/
structure Represents (m : Buckets π) (c : Cache π) : Prop where
  bucket_eq : ∀ key, (m.under? key).getD [] = (c.bucket key).map Entry.stored
  ne_nil : ∀ key bucket, m.under? key = some bucket → bucket ≠ []

namespace Represents

variable {m : Buckets π} {c : Cache π}

theorem empty : (empty : Buckets π).Represents .empty where
  bucket_eq _ := rfl
  ne_nil _ _ h := by cases h

/-- **One step**: the same put keeps a table and a cache together. -/
theorem put (h : m.Represents c) (key : Key) (identity : Text) (producer : π) :
    (m.put key identity producer).Represents (c.put key identity producer) where
  bucket_eq k := by
    rw [under?_put, Cache.bucket_put, ← h.bucket_eq key, ← h.bucket_eq k]
    split <;> rfl
  ne_nil k bucket hk := by
    rw [under?_put] at hk
    split at hk
    · cases hk
      exact storeIn_ne_nil _ _ _
    · exact h.ne_nil k bucket hk

/-- **A whole history**: so do the same puts, one after the other. -/
theorem putAll (h : m.Represents c) (puts : List (Entry π)) :
    (m.putAll puts).Represents (c.putAll puts) := by
  induction puts generalizing m c with
  | nil => exact h
  | cons e puts ih => exact ih (h.put e.key e.identity e.producer)

/-! ## Answers -/

theorem under?_eq_none (h : m.Represents c) {key : Key} (hnone : c.bucket key = []) :
    m.under? key = none := by
  cases hunder : m.under? key with
  | none => rfl
  | some bucket =>
    have hbucket := h.bucket_eq key
    rw [hunder, hnone] at hbucket
    exact absurd hbucket (h.ne_nil key bucket hunder)

theorem under?_eq_some (h : m.Represents c) {key : Key} (hsome : c.bucket key ≠ []) :
    m.under? key = some ((c.bucket key).map Entry.stored) := by
  have hbucket := h.bucket_eq key
  cases hunder : m.under? key with
  | none =>
    rw [hunder] at hbucket
    exact absurd (List.map_eq_nil_iff.mp hbucket.symm) hsome
  | some bucket =>
    rw [hunder] at hbucket
    exact congrArg some hbucket

theorem get?_eq (h : m.Represents c) (key : Key) (identity : Text) :
    m.get? key identity = c.get? key identity := by
  rw [get?, Cache.get?_eq_bucket]
  by_cases hbucket : c.bucket key = []
  · rw [h.under?_eq_none hbucket, hbucket]
    rfl
  · rw [h.under?_eq_some hbucket, Option.bind_eq_bind, Option.bind_some, List.find?_map,
      Option.map_map]
    rfl

theorem contains_eq (h : m.Represents c) (key : Key) : m.contains key = c.contains key := by
  rw [contains, Cache.contains]
  by_cases hbucket : c.bucket key = []
  · rw [h.under?_eq_none hbucket, hbucket]
    rfl
  · rw [h.under?_eq_some hbucket, Option.any_some, List.isEmpty_map]

theorem single_eq (h : m.Represents c) (key : Key) : m.single key = c.single key := by
  rw [single, Cache.single]
  cases hbucket : c.bucket key with
  | nil => rw [h.under?_eq_none hbucket]
  | cons d rest =>
    rw [h.under?_eq_some (by simp [hbucket]), hbucket]
    cases rest with
    | nil => rfl
    | cons e rest => simp

/-! ## Keys and numbers -/

theorem length_under (h : m.Represents c) {key : Key} {bucket : List (Stored π)}
    (hunder : m.under? key = some bucket) :
    bucket.length = (c.entries.map Entry.key).count key := by
  have hbucket := h.bucket_eq key
  rw [hunder, Option.getD_some] at hbucket
  rw [hbucket, List.length_map, Cache.bucket, ← List.countP_eq_length_filter, List.count,
    List.countP_map]
  rfl

/-- The table has the keys of the cache, each once. -/
theorem map_fst_table (h : m.Represents c) :
    (m.table.map Prod.fst).Perm (c.entries.map Entry.key).dedup := by
  apply (List.perm_ext_iff_of_nodup m.nodup (List.nodup_dedup _)).mpr
  intro key
  have hcache : key ∈ c.entries.map Entry.key ↔ c.bucket key ≠ [] := by
    simp [Cache.bucket]
  rw [List.mem_dedup, hcache, ← isSome_under?_iff]
  by_cases hbucket : c.bucket key = []
  · simp [h.under?_eq_none hbucket, hbucket]
  · simp [h.under?_eq_some hbucket, hbucket]

theorem size_eq (h : m.Represents c) : m.size = c.size := by
  have hlengths : m.table.map (·.2.length)
      = (m.table.map Prod.fst).map fun key => (c.entries.map Entry.key).count key := by
    rw [List.map_map]
    exact List.map_congr_left fun e he => h.length_under (under?_of_mem he)
  calc m.size = (m.table.map (·.2.length)).sum := rfl
    _ = ((c.entries.map Entry.key).dedup.map fun key => (c.entries.map Entry.key).count key).sum :=
      hlengths ▸ (h.map_fst_table.map _).sum_eq
    _ = c.size := by rw [List.sum_map_count_dedup_eq_length, List.length_map, Cache.size]

/-- The keys are shown in one order, whatever the order of the table. -/
theorem keys_eq (h : m.Represents c) : m.keys = c.keys := by
  have hperm : (m.table.map Prod.fst).Perm (c.entries.map Entry.key).eraseDups := by
    apply h.map_fst_table.trans
    apply (List.perm_ext_iff_of_nodup (List.nodup_dedup _) (Key.nodup_eraseDups _)).mpr
    intro key
    rw [List.mem_dedup, List.mem_eraseDups]
  refine List.Perm.eq_of_pairwise (fun k k' _ _ => Key.le_antisymm)
    (List.pairwise_mergeSort Key.le_trans Key.le_total _)
    (List.pairwise_mergeSort Key.le_trans Key.le_total _) ?_
  exact (List.mergeSort_perm _ _).trans (hperm.trans (List.mergeSort_perm _ _).symm)

end Represents

/-- **Puts on a table of buckets, in any number and order, leave what they leave in a cache**: every
answer is the same, and to invoke a key is the same as well. -/
theorem answers_putAll (puts : List (Entry Producer)) :
    let m : Buckets Producer := Buckets.empty.putAll puts
    let c : Cache Producer := Cache.empty.putAll puts
    (∀ key identity, m.get? key identity = c.get? key identity) ∧
      (∀ key, m.contains key = c.contains key) ∧
      (∀ key b, m.invoke key b = c.invoke key b) ∧
      m.size = c.size ∧ m.keys = c.keys := by
  intro m c
  have h : m.Represents c := Represents.empty.putAll puts
  refine ⟨h.get?_eq, h.contains_eq, fun key b => ?_, h.size_eq, h.keys_eq⟩
  cases hsingle : c.single key <;> simp only [invoke, Cache.invoke, h.single_eq, hsingle]

end Buckets

end MarkupTemplate
