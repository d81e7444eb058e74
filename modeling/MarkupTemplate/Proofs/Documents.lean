import MarkupTemplate.Proofs.Completeness
import MarkupTemplate.Proofs.Cuttings
import MarkupTemplate.Proofs.Soundness

/-!
# What is read as a template

    markup ──cut──▶ lexemes ──build──▶ tree

The reader goes through markup with a stack of open elements; `Cuts` and `IsDocument` say without
one what the lexemes of markup are and which of them describe an element. `ofMarkup_eq_ok_iff` says
that the two agree: markup is read as a tree if and only if its lexemes are a document that
describes that tree.
-/

namespace MarkupTemplate

variable {dialect : Dialect} {shapes : List Shape}

/-! ## Cutting -/

namespace Cutting

/-- The lexemes of markup are those of its cutting. -/
theorem ofMarkup_of_cuts {start : Nat} {m : Markup} {l : List Lexeme} (h : Cuts start m l) :
    ∃ last, (ofMarkup start m).ending = .run last ∧
      l = lexemes (ofMarkup start m).tags ++ [.run last] := by
  induction h with
  | last htext =>
    rw [ofMarkup_of_run htext]
    exact ⟨_, rfl, rfl⟩
  | tag htext hcontent _ ih =>
    obtain ⟨last, hending, rfl⟩ := ih
    rw [ofMarkup_of_tag htext hcontent]
    exact ⟨last, hending, rfl⟩

theorem cuts_of_ending {start : Nat} {m : Markup} {last : Run}
    (h : (ofMarkup start m).ending = .run last) :
    Cuts start m (lexemes (ofMarkup start m).tags ++ [.run last]) := by
  fun_induction ofMarkup start m with
  | case1 start m run hdrop =>
    have hlast : (⟨start, m.takeWhile isRunSymbol⟩ : Run) = last := by injection h
    subst hlast
    have htext : ∀ x ∈ m, x ≠ .char '<' := fun x hx =>
      isRunSymbol_iff.mp (List.dropWhile_eq_nil_iff.mp hdrop x hx)
    have htake : m.takeWhile isRunSymbol = m :=
      List.takeWhile_eq_self_iff.mpr (List.dropWhile_eq_nil_iff.mp hdrop)
    show Cuts start m [.run ⟨start, m.takeWhile isRunSymbol⟩]
    rw [htake]
    exact .last htext
  | case2 start m run bracket x inside hdrop tag rest hdrop' cutting ih =>
    have htext : ∀ y ∈ m.takeWhile isRunSymbol, y ≠ .char '<' := fun y hy =>
      isRunSymbol_iff.mp (List.mem_takeWhile_imp hy)
    have hcontent : ∀ y ∈ inside.takeWhile isTagSymbol, y ≠ .char '<' ∧ y ≠ .char '>' := fun y hy =>
      isTagSymbol_iff.mp (List.mem_takeWhile_imp hy)
    -- What stands behind the run is the bracket that opens a tag.
    obtain rfl : x = .char '<' := by
      have hx : isRunSymbol x = false := by
        have := List.head?_dropWhile_not isRunSymbol m
        rwa [hdrop] at this
      simpa [isRunSymbol, Symbol.isChar] using hx
    have hm : m = m.takeWhile isRunSymbol ++ .char '<' ::
        (inside.takeWhile isTagSymbol ++ .char '>' :: rest) := by
      rw [← hdrop', List.takeWhile_append_dropWhile, ← hdrop, List.takeWhile_append_dropWhile]
    have := Cuts.tag htext hcontent (ih h)
    rw [← hm] at this
    exact this
  | case3 => cases h

end Cutting

/-! ## Reading -/

variable [Alphabet]

namespace Tree

theorem ofMarkup_eq_ok {m : Markup} {root : Tree} (h : ofMarkup dialect shapes m = .ok root) :
    ∃ l, Cuts 0 m l ∧ IsDocument dialect shapes l root := by
  obtain ⟨b, hb, hroot⟩ := bind_eq_ok.mp h
  obtain ⟨last, hending, -, -⟩ := Builder.finish_eq_ok hroot
  rw [hending] at hroot
  exact ⟨_, Cutting.cuts_of_ending hending, isDocument_of_finish hb hroot⟩

theorem ofMarkup_of_isDocument {m : Markup} {l : List Lexeme} {root : Tree} (hl : Cuts 0 m l)
    (h : IsDocument dialect shapes l root) : ofMarkup dialect shapes m = .ok root := by
  obtain ⟨last, hending, rfl⟩ := Cutting.ofMarkup_of_cuts hl
  obtain ⟨b, hb, hroot⟩ := Builder.finish_of_isDocument h m.byteLength
  rw [← hending] at hroot
  exact bind_eq_ok.mpr ⟨b, hb, hroot⟩

/-- **Markup is read as a tree if and only if its lexemes are a document that describes the
tree.** -/
theorem ofMarkup_eq_ok_iff {m : Markup} {root : Tree} :
    ofMarkup dialect shapes m = .ok root ↔
      ∃ l, Cuts 0 m l ∧ IsDocument dialect shapes l root := by
  constructor
  · exact ofMarkup_eq_ok
  · rintro ⟨l, hl, h⟩
    exact ofMarkup_of_isDocument hl h

end Tree

end MarkupTemplate
