import MarkupTemplate.Slot
import MarkupTemplate.Tag.Name
import MarkupTemplate.Tag.Word

/-!
# The characters of names

Names are cut out of markup by white space, quotes, angle brackets, the equals sign and the slash,
and a value has its place in markup behind a dollar sign. None of these *delimiters* is part of a
name in any alphabet. `isDelimiter_of_mem_name` is what everything else builds on.
-/

namespace MarkupTemplate

theorem isDelimiter_of_isBlank {c : Char} (h : isBlank c = true) : isDelimiter c = true := by
  rw [isDelimiter, h, Bool.true_or]

theorem isDelimiter_of_isQuote {c : Char} (h : Word.isQuote c = true) : isDelimiter c = true := by
  rcases Word.isQuote_iff.mp h with rfl | rfl <;> decide

/-! ## Names are free of delimiters -/

variable [Alphabet]

theorem isDelimiter_of_isNameContinue {c : Char} (h : isNameContinue c = true) :
    isDelimiter c = false := by
  simp only [isNameContinue, Bool.or_eq_true, decide_eq_true_eq] at h
  rcases h with ((h | rfl) | rfl) | rfl
  · exact Alphabet.isDelimiter_of_isContinue h
  all_goals decide

theorem isDelimiter_of_isAttributeStart {c : Char} (h : isAttributeStart c = true) :
    isDelimiter c = false := by
  simp only [isAttributeStart, isNameStart, Bool.or_eq_true, decide_eq_true_eq] at h
  rcases h with ((rfl | h) | rfl) | rfl
  · decide
  · exact Alphabet.isDelimiter_of_isContinue (Alphabet.isContinue_of_isStart h)
  all_goals decide

/-- **No character of a name is a delimiter.** -/
theorem isDelimiter_of_mem_name {name : Text} (h : isAttributeName name = true) {c : Char}
    (hc : c ∈ name) : isDelimiter c = false := by
  cases name with
  | nil => cases hc
  | cons d name =>
    obtain ⟨hstart, hrest⟩ := Bool.and_eq_true_iff.mp h
    rcases List.mem_cons.mp hc with rfl | hc
    · exact isDelimiter_of_isAttributeStart hstart
    · exact isDelimiter_of_isNameContinue (List.all_eq_true.mp hrest c hc)

theorem isBlank_of_mem_name {name : Text} (h : isAttributeName name = true) {c : Char}
    (hc : c ∈ name) : isBlank c = false :=
  (Bool.or_eq_false_iff.mp (isDelimiter_of_mem_name h hc)).1

/-- A delimiter is in no name. -/
theorem notMem_name {name : Text} (h : isAttributeName name = true) {c : Char}
    (hc : isDelimiter c = true) : c ∉ name := by
  intro hmem
  rw [isDelimiter_of_mem_name h hmem] at hc
  cases hc

/-- A name opens no quoted part and ends no tag. -/
theorem isQuote_of_mem_name {name : Text} (h : isAttributeName name = true) {c : Char}
    (hc : c ∈ name) : Word.isQuote c = false := by
  cases hquote : Word.isQuote c with
  | false => rfl
  | true => exact absurd hc (notMem_name h (isDelimiter_of_isQuote hquote))

theorem no_bracket_of_mem_name {name : Text} (h : isAttributeName name = true) {c : Char}
    (hc : c ∈ name) : c ≠ '<' ∧ c ≠ '>' := by
  constructor
  · rintro rfl
    exact notMem_name h (by decide) hc
  · rintro rfl
    exact notMem_name h (by decide) hc

/-- A name is not empty. -/
theorem ne_nil_of_isAttributeName {name : Text} (h : isAttributeName name = true) : name ≠ [] := by
  rintro rfl
  cases h

end MarkupTemplate
