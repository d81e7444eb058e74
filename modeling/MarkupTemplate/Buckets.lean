import MarkupTemplate.Cache

/-!
# Buckets

    key ──▶ bucket ──identity──▶ producer

The table behind a cache. Each key has a bucket, and a bucket holds the producers of the templates
with its key, each under the identity of its template. The buckets stand in the order in which their
keys were first used, which no look-up depends on.
-/

namespace MarkupTemplate

variable {π : Type}

/-- A producer in a bucket, and the identity of its template. -/
structure Stored (π : Type) where
  identity : Text
  producer : π

/-- Put a producer in the place of the one with the same identity, or at the end. -/
def storeIn (identity : Text) (producer : π) : List (Stored π) → List (Stored π)
  | [] => [⟨identity, producer⟩]
  | s :: rest =>
    if s.identity = identity then ⟨s.identity, producer⟩ :: rest
    else s :: storeIn identity producer rest

/-- Change what stands under a key. A key that is not there yet gets an empty bucket first. -/
def changeUnder (key : Key) (f : List (Stored π) → List (Stored π)) :
    List (Key × List (Stored π)) → List (Key × List (Stored π))
  | [] => [(key, f [])]
  | (k, bucket) :: rest =>
    if k = key then (k, f bucket) :: rest else (k, bucket) :: changeUnder key f rest

theorem map_fst_changeUnder (key : Key) (f : List (Stored π) → List (Stored π))
    (l : List (Key × List (Stored π))) :
    (changeUnder key f l).map Prod.fst =
      if key ∈ l.map Prod.fst then l.map Prod.fst else l.map Prod.fst ++ [key] := by
  induction l with
  | nil => simp [changeUnder]
  | cons e l ih =>
    obtain ⟨k, bucket⟩ := e
    by_cases h : k = key
    · simp [changeUnder, h]
    · simp only [changeUnder, if_neg h, List.map_cons, ih, List.mem_cons]
      by_cases hm : key ∈ l.map Prod.fst
      · simp [hm]
      · simp [hm, Ne.symm h]

theorem lookup_changeUnder (key : Key) (f : List (Stored π) → List (Stored π))
    (l : List (Key × List (Stored π))) (k : Key) :
    (changeUnder key f l).lookup k =
      if k = key then some (f ((l.lookup key).getD [])) else l.lookup k := by
  induction l with
  | nil =>
    by_cases h : k = key
    · simp [changeUnder, h]
    · have hb : (k == key) = false := by simpa using h
      simp [changeUnder, List.lookup_cons, hb, h]
  | cons e l ih =>
    obtain ⟨m, bucket⟩ := e
    by_cases hm : m = key
    · subst hm
      by_cases hk : k = m
      · simp [changeUnder, hk]
      · have hb : (k == m) = false := by simpa using hk
        simp [changeUnder, List.lookup_cons, hb, hk]
    · have hb : (key == m) = false := by simpa using Ne.symm hm
      by_cases hk : k = m
      · subst hk
        simp [changeUnder, hm]
      · have hkb : (k == m) = false := by simpa using hk
        simp [changeUnder, hm, List.lookup_cons, hb, hkb, ih]

/-- Producers under keys, no key twice. -/
structure Buckets (π : Type) where
  table : List (Key × List (Stored π))
  nodup : (table.map Prod.fst).Nodup

namespace Buckets

def empty : Buckets π := ⟨[], List.nodup_nil⟩

/-- What is stored under a key. -/
def under? (m : Buckets π) (key : Key) : Option (List (Stored π)) := m.table.lookup key

def size (m : Buckets π) : Nat := (m.table.map (·.2.length)).foldr Nat.add 0

/-- The producer of the template with a key and an identity. -/
def get? (m : Buckets π) (key : Key) (identity : Text) : Option π := do
  let bucket ← m.under? key
  (bucket.find? (·.identity = identity)).map Stored.producer

/-- Store the producer of the template with a key and an identity, in the place of the one that was
there. -/
def put (m : Buckets π) (key : Key) (identity : Text) (producer : π) : Buckets π where
  table := changeUnder key (storeIn identity producer) m.table
  nodup := by
    rw [map_fst_changeUnder]
    split
    · exact m.nodup
    · next h =>
      rw [List.nodup_append]
      refine ⟨m.nodup, by simp, fun k hk k' hk' => ?_⟩
      rintro rfl
      exact h (List.mem_singleton.mp hk' ▸ hk)

def contains (m : Buckets π) (key : Key) : Bool := (m.under? key).any (!·.isEmpty)

/-- The one producer under a key. -/
def single (m : Buckets π) (key : Key) : Except Cause π :=
  match m.under? key with
  | some [s] => .ok s.producer
  | some bucket =>
    if 1 < bucket.length then .error (.ambiguousKey key bucket.length)
    else .error (.missingProducer key)
  | none => .error (.missingProducer key)

/-- The keys with a bucket, in order. -/
def keys (m : Buckets π) : List Key := (m.table.map Prod.fst).mergeSort Key.le

/-- Render with the one producer under a key. -/
def invoke (m : Buckets Producer) (key : Key) (b : Bindings) : Except Fault Rendered :=
  match m.single key with
  | .ok producer => producer b
  | .error cause => .error (Fault.ofCause cause)

@[simp] theorem under?_empty (key : Key) : (empty : Buckets π).under? key = none := rfl

/-- One put changes what stands under its key, and nothing else. -/
theorem under?_put (m : Buckets π) (key : Key) (identity : Text) (producer : π) (k : Key) :
    (m.put key identity producer).under? k =
      if k = key then some (storeIn identity producer ((m.under? key).getD []))
      else m.under? k :=
  lookup_changeUnder key (storeIn identity producer) m.table k

end Buckets

end MarkupTemplate
