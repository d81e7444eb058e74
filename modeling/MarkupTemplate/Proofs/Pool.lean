import MarkupTemplate.Bindings

/-!
# Values that are offered to a pool

    values bound at once ──push, push, …──▶ bindings

Bindings begin with no values or with any number of them, and then grow one by one. A value may be
refused, and then the bindings stay as they were. `push_offerAll` says what is there after any such
history, and which value is refused next.

The pool is full when the number of values is *exactly* its size. So values that are bound one by
one never run over it, but bindings that began past the end of the pool take in everything
(`push_past_pool`).
-/

namespace MarkupTemplate

namespace Bindings

/-- The bindings after a value was offered. They stay as they are if the value is refused. -/
def offer (b : Bindings) (value : Except Text Json) : Bindings :=
  match b.push value with
  | .ok b => b
  | .error _ => b

/-- The bindings after some values were offered, one after the other. -/
def offerAll (b : Bindings) (offers : List (Except Text Json)) : Bindings := offers.foldl offer b

/-- The values among offers that have a JSON form. -/
def offered (offers : List (Except Text Json)) : List Json := offers.filterMap Except.toOption

@[simp] theorem offered_nil : offered [] = [] := rfl

@[simp] theorem offered_ok_cons (value : Json) (offers : List (Except Text Json)) :
    offered (.ok value :: offers) = value :: offered offers := rfl

@[simp] theorem offered_error_cons (detail : Text) (offers : List (Except Text Json)) :
    offered (.error detail :: offers) = offered offers := rfl

/-! ## One offer -/

variable {b : Bindings}

theorem push_of_full (h : b.size = poolSize) (value : Except Text Json) :
    b.push value = .error (.tooManyValues (poolSize + 1)) := by
  rw [push.eq_def, if_pos h]

theorem push_ok_of_not_full (h : b.size ≠ poolSize) (value : Json) :
    b.push (.ok value) = .ok ⟨b.values ++ [value]⟩ := by
  rw [push, if_neg h]

/-- What has no JSON form is refused, by a full pool as well. -/
theorem exists_push_error (b : Bindings) (detail : Text) :
    ∃ cause, b.push (.error detail) = .error cause := by
  by_cases h : b.size = poolSize
  · exact ⟨_, push_of_full h _⟩
  · rw [push.eq_def, if_neg h]
    exact ⟨_, rfl⟩

theorem offer_of_push_error {value : Except Text Json} {cause : Cause}
    (h : b.push value = .error cause) : b.offer value = b := by
  rw [offer, h]

theorem offer_error (b : Bindings) (detail : Text) : b.offer (.error detail) = b := by
  obtain ⟨cause, h⟩ := exists_push_error b detail
  exact offer_of_push_error h

theorem offer_ok_of_full (h : b.size = poolSize) (value : Json) : b.offer (.ok value) = b :=
  offer_of_push_error (push_of_full h _)

theorem offer_ok_of_not_full (h : b.size ≠ poolSize) (value : Json) :
    b.offer (.ok value) = ⟨b.values ++ [value]⟩ := by
  rw [offer, push_ok_of_not_full h]

/-! ## A history of offers -/

/-- **Within the pool** values are taken in until it is full. -/
theorem values_offerAll_of_le (offers : List (Except Text Json)) (h : b.size ≤ poolSize) :
    (b.offerAll offers).values = (b.values ++ offered offers).take poolSize := by
  induction offers generalizing b with
  | nil => rw [offered_nil, List.append_nil, List.take_of_length_le h, offerAll, List.foldl_nil]
  | cons offer offers ih =>
    rw [offerAll, List.foldl_cons]
    cases offer with
    | error detail =>
      rw [offer_error, offered_error_cons]
      exact ih h
    | ok value =>
      rw [offered_ok_cons]
      by_cases hfull : b.size = poolSize
      · have hlength : poolSize ≤ b.values.length := Nat.le_of_eq hfull.symm
        rw [offer_ok_of_full hfull, ← offerAll, ih h, List.take_append_of_le_length hlength,
          List.take_append_of_le_length hlength]
      · have hsize : Bindings.size ⟨b.values ++ [value]⟩ ≤ poolSize := by
          simp only [size, List.length_append, List.length_singleton] at h hfull ⊢
          omega
        rw [offer_ok_of_not_full hfull, ← offerAll, ih hsize, List.append_assoc,
          List.singleton_append]

/-- **Past the end of the pool** every value is taken in. -/
theorem values_offerAll_of_lt (offers : List (Except Text Json)) (h : poolSize < b.size) :
    (b.offerAll offers).values = b.values ++ offered offers := by
  induction offers generalizing b with
  | nil => rw [offered_nil, List.append_nil, offerAll, List.foldl_nil]
  | cons offer offers ih =>
    rw [offerAll, List.foldl_cons]
    cases offer with
    | error detail =>
      rw [offer_error, offered_error_cons]
      exact ih h
    | ok value =>
      have hsize : poolSize < Bindings.size ⟨b.values ++ [value]⟩ := by
        simp only [size, List.length_append, List.length_singleton] at h ⊢
        omega
      rw [offer_ok_of_not_full (Nat.ne_of_gt h), ← offerAll, ih hsize, List.append_assoc,
        List.singleton_append, offered_ok_cons]

/-- Bindings run over the pool if and only if they began past its end. -/
theorem poolSize_lt_size_offerAll_iff (b : Bindings) (offers : List (Except Text Json)) :
    poolSize < (b.offerAll offers).size ↔ poolSize < b.size := by
  constructor
  · intro h
    rw [← Nat.not_le] at h ⊢
    intro hle
    rw [size, values_offerAll_of_le offers hle] at h
    exact h (List.length_take_le _ _)
  · intro h
    rw [size, values_offerAll_of_lt offers h, List.length_append]
    exact Nat.lt_add_right _ h

/-- **What a pool refuses.** Let some values be bound at once and others be offered one by one. If
the pool is full then, the next value is refused with a fault of arity and nothing changes; if not,
it is appended and nothing else changes. The bindings are past the end of the pool only if they
began there, and then they refuse no value. What has no JSON form is always refused and changes
nothing. -/
theorem push_offerAll (values : List Json) (offers : List (Except Text Json)) :
    let b := (⟨values⟩ : Bindings).offerAll offers
    (b.values = if values.length ≤ poolSize then (values ++ offered offers).take poolSize
      else values ++ offered offers) ∧
    (poolSize < b.size ↔ poolSize < values.length) ∧
    (∀ value, if b.size = poolSize then
        (∃ cause, b.push (.ok value) = .error cause ∧ cause.kind = .arity) ∧
          b.offer (.ok value) = b
      else b.push (.ok value) = .ok ⟨b.values ++ [value]⟩) ∧
    ∀ detail, (∃ cause, b.push (.error detail) = .error cause) ∧ b.offer (.error detail) = b := by
  intro b
  refine ⟨?_, poolSize_lt_size_offerAll_iff ⟨values⟩ offers, ?_, ?_⟩
  · split
    · next h => exact values_offerAll_of_le offers h
    · next h => exact values_offerAll_of_lt offers (Nat.not_le.mp h)
  · intro value
    split
    · next h => exact ⟨⟨_, push_of_full h _, rfl⟩, offer_ok_of_full h value⟩
    · next h => exact push_ok_of_not_full h value
  · exact fun detail => ⟨exists_push_error b detail, offer_error b detail⟩

/-- **Bindings that began past the end of the pool take in one more value.** -/
theorem push_past_pool :
    let b : Bindings := ⟨List.replicate (poolSize + 1) .null⟩
    poolSize ≤ b.size ∧ b.push (.ok (.bool true)) = .ok ⟨b.values ++ [.bool true]⟩ ∧
      b.offer (.ok (.bool true)) ≠ b := by
  intro b
  have hpush : b.push (.ok (.bool true)) = .ok ⟨b.values ++ [.bool true]⟩ :=
    push_ok_of_not_full (by decide) _
  refine ⟨by decide, hpush, fun h => ?_⟩
  rw [offer, hpush] at h
  have hlength := congrArg Bindings.size h
  exact absurd hlength (by decide)

end Bindings

end MarkupTemplate
