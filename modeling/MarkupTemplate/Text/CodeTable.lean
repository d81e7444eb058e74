import MarkupTemplate.Text.Basic

/-!
# Tables of code points

A property of characters is given by the ranges of code points that have it. The ranges of a table
are in increasing order and do not touch, so a search may stop at the first range that begins
beyond the code point it looks for.
-/

namespace MarkupTemplate

/-- Ranges of code points, both ends included, in increasing order. -/
abbrev CodeTable := List (Nat × Nat)

namespace CodeTable

/-- Whether a code point lies in one of the ranges. -/
def containsCode : CodeTable → Nat → Bool
  | [], _ => false
  | (first, last) :: ranges, n =>
    if n < first then false else if n ≤ last then true else containsCode ranges n

def contains (table : CodeTable) (c : Char) : Bool := table.containsCode c.toNat

/-- Whatever a search finds lies in one of the ranges. -/
theorem exists_of_containsCode {table : CodeTable} {n : Nat} (h : table.containsCode n = true) :
    ∃ range ∈ table, range.1 ≤ n ∧ n ≤ range.2 := by
  induction table with
  | nil => simp [containsCode] at h
  | cons range table ih =>
    obtain ⟨first, last⟩ := range
    simp only [containsCode] at h
    split at h
    · simp at h
    · split at h
      · exact ⟨(first, last), by simp, by omega, by omega⟩
      · obtain ⟨r, hr, hn⟩ := ih h
        exact ⟨r, by simp [hr], hn⟩

/-- Whether no range of one table meets a range of the other. -/
def apart (s t : CodeTable) : Bool :=
  s.all fun r => t.all fun q => decide (r.2 < q.1 ∨ q.2 < r.1)

/-- Tables that are apart have no code point in common. -/
theorem containsCode_eq_false_of_apart {s t : CodeTable} {n : Nat} (h : apart s t = true)
    (hs : s.containsCode n = true) : t.containsCode n = false := by
  cases ht : t.containsCode n with
  | false => rfl
  | true =>
    obtain ⟨r, hr, hrn⟩ := exists_of_containsCode hs
    obtain ⟨q, hq, hqn⟩ := exists_of_containsCode ht
    have hrq := of_decide_eq_true (List.all_eq_true.mp (List.all_eq_true.mp h r hr) q hq)
    omega

end CodeTable

end MarkupTemplate
