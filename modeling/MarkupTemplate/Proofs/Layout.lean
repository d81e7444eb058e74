import MarkupTemplate.Libraries
import MarkupTemplate.Proofs.Joining

/-!
# Layout

    before ++ behind           ──read──▶ outline, or cause
    before ++ space ++ behind  ──read──▶ the same

How a template is laid out in lines does not matter for what it describes. Line breaks may stand
anywhere in a run of text, other white space at the ends of one: at the start and at the end of the
markup, and between a tag and the text beside it. This holds of markup that cannot be read as well,
which then fails for the same cause. Slots are symbols of the markup, so they move with the text
around them.
-/

namespace MarkupTemplate

variable {dialect : Dialect} {shapes : List Shape}

namespace Markup

/-- White space does nothing to a run of text where it is inserted at an end of it, and line breaks
do nothing anywhere. -/
theorem normalized_insert {front back : Markup} {space : Text}
    (h : (∀ c ∈ space, Interpolation.isLineBreak c = true) ∨
      (∀ c ∈ space, isBlank c = true) ∧ (front = [] ∨ back = [])) :
    (front ++ (ofText space ++ back)).normalized = (front ++ back).normalized := by
  rcases h with hbreaks | ⟨hspace, rfl | rfl⟩
  · exact normalized_insert_lineBreaks front back hbreaks
  · exact normalized_blank_append (forall_mem_ofText.mpr hspace) back
  · rw [List.append_nil, List.append_nil]
    exact normalized_append_blank (forall_mem_ofText.mpr hspace) front

end Markup

/-- Line breaks and white space are no brackets. -/
theorem ne_bracket_of_space {space : Text}
    (h : (∀ c ∈ space, Interpolation.isLineBreak c = true) ∨ ∀ c ∈ space, isBlank c = true) :
    ∀ x ∈ Markup.ofText space, x ≠ .char '<' := by
  refine Markup.forall_mem_ofText.mpr fun c hc => ?_
  rintro ⟨⟩
  rcases h with h | h
  · cases h _ hc
  · cases h _ hc

namespace Outline

/-- **Layout does not matter.** Let some markup end outside of every tag, with a run of text that
goes on in what stands behind it. Then line breaks between the two change nothing of what is read.
Neither does any white space if that run is empty, so that it stands at the start of the markup or
right behind a tag, or if what is behind has no text in front, so that it stands at the end of the
markup or right before a tag. -/
theorem ofMarkup_insert_space [Alphabet] {before behind : Markup} {run : Run} {space : Text}
    (hrun : (Cutting.ofMarkup 0 before).ending = .run run)
    (hspace : (∀ c ∈ space, Interpolation.isLineBreak c = true) ∨
      (∀ c ∈ space, isBlank c = true) ∧
        (run.symbols = [] ∨ ∀ x ∈ behind.head?, x = .char '<')) :
    ofMarkup dialect shapes (before ++ (Markup.ofText space ++ behind))
      = ofMarkup dialect shapes (before ++ behind) := by
  have hbracket := Cutting.ne_bracket_of_ending hrun
  have hnoBracket := ne_bracket_of_space (hspace.imp id And.left)
  have hinsert : (∀ c ∈ space, Interpolation.isLineBreak c = true) ∨
      (∀ c ∈ space, isBlank c = true) ∧
        (run.symbols = [] ∨ behind.takeWhile Cutting.isRunSymbol = []) := by
    refine hspace.imp id (And.imp id (Or.imp id fun hbehind => ?_))
    cases behind with
    | nil => rfl
    | cons x behind =>
      obtain rfl := hbehind x rfl
      rfl
  refine ofMarkup_append_congr hrun fun l b length length' _ _ => ?_
  rw [← List.append_assoc]
  refine Builder.readOn_agree (.refl b) (Cutting.similar_append ?_ hbracket ?_ _ _) _ _
  · exact List.forall_mem_append.mpr ⟨hbracket, hnoBracket⟩
  · rw [List.append_assoc]
    exact Markup.normalized_insert hinsert

/-- White space behind a list, before the closing tag. -/
theorem ofMarkup_insert_space_list :
    let before : Markup :=
      Markup.ofText (txt "<ul><li>a\nb</li> and ") ++ [.slot ⟨1, by decide, by decide⟩]
    let behind : Markup := Markup.ofText (txt "</ul>")
    let space := txt "\u00a0\n\t"
    (Cutting.ofMarkup 0 before).ending
        = .run ⟨16, Markup.ofText (txt " and ") ++ [.slot ⟨1, by decide, by decide⟩]⟩ ∧
      (∀ c ∈ space, isBlank c = true) ∧ (∀ x ∈ behind.head?, x = .char '<') ∧
      ofMarkup .standard [.list] (before ++ (Markup.ofText space ++ behind))
        = ofMarkup .standard [.list] (before ++ behind) ∧
      (ofMarkup .standard [.list] (before ++ behind)).isOk = true := by
  intro before behind space
  have hrun : (Cutting.ofMarkup 0 before).ending
      = .run ⟨16, Markup.ofText (txt " and ") ++ [.slot ⟨1, by decide, by decide⟩]⟩ := by
    decide +kernel
  have hspace : ∀ c ∈ space, isBlank c = true := List.all_eq_true.mp rfl
  have hbehind : ∀ x ∈ behind.head?, x = .char '<' := by decide +kernel
  exact ⟨hrun, hspace, hbehind, ofMarkup_insert_space hrun (.inr ⟨hspace, .inr hbehind⟩),
    by decide +kernel⟩

end Outline

end MarkupTemplate
