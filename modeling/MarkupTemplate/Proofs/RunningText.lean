import MarkupTemplate.Proofs.Assembly
import MarkupTemplate.Proofs.WellFormed

/-!
# The text of a run

    run ──pieces──▶ text ──normalized──▶ the text of the run
     └──normalized──▶ markup ──pieces──▶ the same text

The text of a run is made by cutting the run into pieces and trimming those. No piece of it is to
spare, and a text like that is determined by its symbols. So it comes to the same to trim the markup
first and to cut it into pieces afterwards, which is `Run.text_eq`. What white space does to a run
can then be read off the markup: line breaks do nothing anywhere in a run, and other white space
does nothing at its ends. A run is blank if and only if it has no text.
-/

namespace MarkupTemplate

/-! ## Texts and their symbols -/

namespace Interpolation

/-- A text without a piece to spare is what its symbols are cut into. -/
theorem IsCanonical.ofMarkup_symbols {i : Interpolation} (h : i.IsCanonical) :
    ofMarkup i.symbols = i := by
  obtain ⟨hapart, hne⟩ := h
  induction hapart with
  | nil => rfl
  | literal t =>
    have ht : t ≠ [] := by simpa [Piece.isEmpty] using hne _ List.mem_cons_self
    rw [symbols_literal_cons, symbols_nil, List.append_nil, ofMarkup_ofText, ofText, if_neg ht]
  | read s _ ih =>
    obtain ⟨-, hrest⟩ := List.forall_mem_cons.mp hne
    show .read s :: ofMarkup (symbols _) = _
    rw [ih hrest]
  | literal_read t s _ ih =>
    obtain ⟨ht, hrest⟩ := List.forall_mem_cons.mp hne
    obtain ⟨-, hrest⟩ := List.forall_mem_cons.mp hrest
    have ht : t ≠ [] := by simpa [Piece.isEmpty] using ht
    rw [symbols_literal_cons, symbols_read_cons, ofMarkup_ofText_append, ofText, if_neg ht,
      ih hrest]
    rfl

/-- Trimming pieces is trimming markup. -/
theorem normalized_ofMarkup (m : Markup) : (ofMarkup m).normalized = ofMarkup m.normalized := by
  rw [← symbols_normalized, (apart_ofMarkup m).isCanonical_normalized.ofMarkup_symbols]

end Interpolation

/-! ## White space that changes nothing -/

namespace Markup

open OpeningTag

theorem normalized_insert_lineBreaks (front back : Markup) {space : Text}
    (h : ∀ c ∈ space, Interpolation.isLineBreak c = true) :
    (front ++ (ofText space ++ back)).normalized = (front ++ back).normalized := by
  have hspace : (ofText space).filter (!·.isCharWith Interpolation.isLineBreak) = [] := by
    refine List.filter_eq_nil_iff.mpr (forall_mem_ofText.mpr fun c hc => ?_)
    simp [h c hc]
  rw [normalized, normalized, List.filter_append, List.filter_append, hspace, List.nil_append,
    List.filter_append]

theorem normalized_blank_append {blank : Markup} (h : ∀ x ∈ blank, isBlankSymbol x = true)
    (m : Markup) : (blank ++ m).normalized = m.normalized := by
  rw [normalized, normalized, trimmed, trimmed, List.filter_append, List.dropWhile_append_of_pos]
  intro x hx
  exact h x (List.mem_filter.mp hx).1

theorem normalized_append_blank {blank : Markup} (h : ∀ x ∈ blank, isBlankSymbol x = true)
    (m : Markup) : (m ++ blank).normalized = m.normalized := by
  have hblank : ∀ x ∈ blank.filter (!·.isCharWith Interpolation.isLineBreak),
      isBlankSymbol x = true := fun x hx => h x (List.mem_filter.mp hx).1
  rw [normalized, normalized, trimmed, trimmed, List.filter_append, List.dropWhile_append]
  split
  -- Nothing but white space is left in front of what was appended.
  · next hempty =>
    rw [List.isEmpty_iff.mp hempty, List.dropWhile_eq_nil_iff.mpr hblank]
  · exact dropWhileEnd_append_of_forall hblank

/-- What is trimmed stays as it is. -/
theorem normalized_normalized (m : Markup) : m.normalized.normalized = m.normalized := by
  have hfilter : m.normalized.filter (!·.isCharWith Interpolation.isLineBreak) = m.normalized :=
    List.filter_eq_self.mpr fun x hx => (List.mem_filter.mp (mem_of_mem_normalized hx)).2
  rw [normalized, hfilter]
  exact trim_trim _

end Markup

/-! ## Runs -/

namespace Run

/-- **The text of a run is the normal form of its symbols, cut into pieces.** -/
theorem text_eq (r : Run) : r.text = .ofMarkup r.symbols.normalized :=
  Interpolation.normalized_ofMarkup r.symbols

theorem isBlank_iff_forall {r : Run} :
    r.isBlank = true ↔ ∀ x ∈ r.symbols, OpeningTag.isBlankSymbol x = true :=
  List.all_eq_true

/-- A run is blank if and only if it has no text. -/
theorem isBlank_iff_text {r : Run} : r.isBlank = true ↔ r.text = [] := by
  constructor
  · intro h
    have hnil := Markup.normalized_append_blank (isBlank_iff_forall.mp h) []
    rw [List.nil_append] at hnil
    rw [text_eq, hnil]
    rfl
  · intro h
    by_contra hblank
    exact (isBody_text (Bool.eq_false_iff.mpr hblank)).ne_nil h

end Run

end MarkupTemplate
