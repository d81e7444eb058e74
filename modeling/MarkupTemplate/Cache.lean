import MarkupTemplate.Plan.Basic

/-!
# The cache of producers

A cache holds what was compiled, under the key and the identity of the template. Keys are hashes, so
templates with different identities may share one; each of them has an entry of its own. A look-up
by key and identity finds the producer that was stored last for that pair. A look-up by key alone
succeeds if one template has that key.
-/

namespace MarkupTemplate

/-- A producer, and the template that it was compiled from. -/
structure Entry (π : Type) where
  key : Key
  identity : Text
  producer : π

namespace Entry

variable {π : Type}

/-- Whether the entry is for the template with a key and an identity. -/
def isFor (key : Key) (identity : Text) (e : Entry π) : Bool :=
  e.key = key && e.identity = identity

end Entry

/-- Producers under the keys and identities of their templates. -/
structure Cache (π : Type) where
  entries : List (Entry π)

namespace Cache

variable {π : Type}

def empty : Cache π := ⟨[]⟩

def size (c : Cache π) : Nat := c.entries.length

def bucket (c : Cache π) (key : Key) : List (Entry π) := c.entries.filter (·.key = key)

/-- The producer of the template with a key and an identity. -/
def get? (c : Cache π) (key : Key) (identity : Text) : Option π :=
  (c.entries.find? (·.isFor key identity)).map Entry.producer

/-- Put an entry in the place of the one for the same template, or at the end. -/
def putEntry (e : Entry π) : List (Entry π) → List (Entry π)
  | [] => [e]
  | d :: rest => if d.isFor e.key e.identity then e :: rest else d :: putEntry e rest

/-- Store the producer of the template with a key and an identity, in the place of the one that was
there. -/
def put (c : Cache π) (key : Key) (identity : Text) (producer : π) : Cache π :=
  ⟨putEntry ⟨key, identity, producer⟩ c.entries⟩

def contains (c : Cache π) (key : Key) : Bool := !(c.bucket key).isEmpty

/-- The one producer under a key. -/
def single (c : Cache π) (key : Key) : Except Cause π :=
  match c.bucket key with
  | [] => .error (.missingProducer key)
  | [e] => .ok e.producer
  | entries => .error (.ambiguousKey key entries.length)

/-- The keys with a producer, each once, in order. -/
def keys (c : Cache π) : List Key := (c.entries.map Entry.key).eraseDups.mergeSort Key.le

/-- Render with the one producer under a key. -/
def invoke (c : Cache Producer) (key : Key) (b : Bindings) : Except Fault Rendered :=
  match c.single key with
  | .ok producer => producer b
  | .error cause => .error (Fault.ofCause cause)

/-! ### What is found after storing -/

theorem find?_putEntry (e : Entry π) (l : List (Entry π)) (key : Key) (identity : Text) :
    (putEntry e l).find? (·.isFor key identity) =
      if e.isFor key identity then some e else l.find? (·.isFor key identity) := by
  induction l with
  | nil => by_cases h : e.isFor key identity <;> simp [putEntry, h]
  | cons d l ih =>
    by_cases hd : d.isFor e.key e.identity
    · have hde : d.isFor key identity = e.isFor key identity := by
        simp only [Entry.isFor, Bool.and_eq_true, decide_eq_true_eq] at hd ⊢
        rw [hd.1, hd.2]
      by_cases h : e.isFor key identity
      · simp [putEntry, hd, h]
      · rw [Bool.not_eq_true] at h
        simp [putEntry, hd, h, hde]
    · by_cases h : d.isFor key identity
      · have he : e.isFor key identity = false := by
          simp only [Entry.isFor, Bool.and_eq_true, decide_eq_true_eq, not_and] at hd h ⊢
          simp only [Bool.and_eq_false_iff, decide_eq_false_iff_not]
          by_cases hk : e.key = key
          · right
            intro hi
            exact hd (h.1.trans hk.symm) (h.2.trans hi.symm)
          · exact .inl hk
        simp [putEntry, hd, h, he]
      · rw [Bool.not_eq_true] at h
        simp [putEntry, hd, h, ih]

/-- A look-up finds the producer that was stored last for the same template. -/
theorem get?_put (c : Cache π) (key : Key) (identity : Text) (producer : π) (k : Key) (i : Text) :
    (c.put key identity producer).get? k i =
      if key = k ∧ identity = i then some producer else c.get? k i := by
  have h := find?_putEntry ⟨key, identity, producer⟩ c.entries k i
  rw [get?, put, h]
  by_cases hk : key = k ∧ identity = i
  · simp [Entry.isFor, hk]
  · have he : Entry.isFor k i ⟨key, identity, producer⟩ = false := by
      simpa [Entry.isFor] using hk
    rw [if_neg (by simp [he]), if_neg hk, get?]

/-- Whatever a look-up finds was stored for that template. -/
theorem exists_of_get? {c : Cache π} {key : Key} {identity : Text} {producer : π}
    (h : c.get? key identity = some producer) :
    ∃ e ∈ c.entries, e.key = key ∧ e.identity = identity ∧ e.producer = producer := by
  obtain ⟨e, he, rfl⟩ := Option.map_eq_some_iff.mp h
  have hfor : e.isFor key identity = true := List.find?_some he
  simp only [Entry.isFor, Bool.and_eq_true, decide_eq_true_eq] at hfor
  exact ⟨e, List.mem_of_find?_eq_some he, hfor.1, hfor.2, rfl⟩

theorem mem_putEntry {e d : Entry π} {l : List (Entry π)} (h : d ∈ putEntry e l) :
    d = e ∨ d ∈ l := by
  induction l with
  | nil => exact .inl (List.mem_singleton.mp h)
  | cons a l ih =>
    rw [putEntry] at h
    split at h
    · rcases List.mem_cons.mp h with h | h
      · exact .inl h
      · exact .inr (List.mem_cons_of_mem _ h)
    · rcases List.mem_cons.mp h with rfl | h
      · exact .inr List.mem_cons_self
      · rcases ih h with h | h
        · exact .inl h
        · exact .inr (List.mem_cons_of_mem _ h)

@[simp] theorem get?_empty (key : Key) (identity : Text) :
    (empty : Cache π).get? key identity = none := rfl

theorem get?_eq_none_iff {c : Cache π} {key : Key} {identity : Text} :
    c.get? key identity = none ↔ ∀ e ∈ c.entries, ¬(e.key = key ∧ e.identity = identity) := by
  simp [get?, Entry.isFor]

theorem putEntry_eq_append {e : Entry π} {l : List (Entry π)}
    (h : ∀ d ∈ l, ¬(d.key = e.key ∧ d.identity = e.identity)) : putEntry e l = l ++ [e] := by
  induction l with
  | nil => rfl
  | cons d l ih =>
    obtain ⟨hd, hl⟩ := List.forall_mem_cons.mp h
    rw [putEntry, if_neg (by simpa [Entry.isFor] using hd), ih hl, List.cons_append]

/-- What is stored for a template that is not there goes to the end. -/
theorem entries_put {c : Cache π} {key : Key} {identity : Text} (h : c.get? key identity = none)
    (producer : π) :
    (c.put key identity producer).entries = c.entries ++ [⟨key, identity, producer⟩] :=
  putEntry_eq_append (get?_eq_none_iff.mp h)

end Cache

end MarkupTemplate
