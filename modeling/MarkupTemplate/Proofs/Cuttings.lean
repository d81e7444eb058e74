import MarkupTemplate.Proofs.Words
import MarkupTemplate.Tree.Cutting

/-!
# Cutting markup

    text                         ──▶  a run
    text < content > rest        ──▶  a run and a tag, and then what rest is cut into
    text < inside                ──▶  an unterminated tag

Markup is made of runs and tags in one of these ways (`parts`), and each has an equation for the
cutting. What is to be known of all cuttings is proved by induction on `Parts`, so that the reader
need not be opened again.
-/

namespace MarkupTemplate.Cutting

theorem isRunSymbol_iff {x : Symbol} : isRunSymbol x = true ↔ x ≠ .char '<' := by
  simp [isRunSymbol, Symbol.isChar]

theorem isTagSymbol_iff {x : Symbol} :
    isTagSymbol x = true ↔ x ≠ .char '<' ∧ x ≠ .char '>' := by
  simp [isTagSymbol, Symbol.isChar]

/-- Markup without a bracket that opens a tag is one run. -/
theorem ofMarkup_of_run {text : Markup} (h : ∀ x ∈ text, x ≠ .char '<') (start : Nat) :
    ofMarkup start text = ⟨[], .run ⟨start, text⟩⟩ := by
  have htext : ∀ x ∈ text, isRunSymbol x = true := fun x hx => isRunSymbol_iff.mpr (h x hx)
  have htake : text.takeWhile isRunSymbol = text := List.takeWhile_eq_self_iff.mpr htext
  have hdrop : text.dropWhile isRunSymbol = [] := List.dropWhile_eq_nil_iff.mpr htext
  rw [ofMarkup]
  split
  · rw [htake]
  · next hcons => simp [hdrop] at hcons

/-- Markup that begins with a run and a tag is cut behind the tag. -/
theorem ofMarkup_of_tag {text content : Markup} (htext : ∀ x ∈ text, x ≠ .char '<')
    (hcontent : ∀ x ∈ content, x ≠ .char '<' ∧ x ≠ .char '>') (start : Nat) (rest : Markup) :
    ofMarkup start (text ++ .char '<' :: (content ++ .char '>' :: rest)) =
      let cutting := ofMarkup (start + text.byteLength + 1 + content.byteLength + 1) rest
      ⟨(⟨start, text⟩, ⟨start + text.byteLength, content⟩) :: cutting.tags, cutting.ending⟩ := by
  have htext : ∀ x ∈ text, isRunSymbol x = true := fun x hx => isRunSymbol_iff.mpr (htext x hx)
  have hcontent : ∀ x ∈ content, isTagSymbol x = true := fun x hx =>
    isTagSymbol_iff.mpr (hcontent x hx)
  have htake : (text ++ .char '<' :: (content ++ .char '>' :: rest)).takeWhile isRunSymbol
      = text := by
    rw [List.takeWhile_append_of_pos htext]
    exact List.append_nil text
  have hdrop : (text ++ .char '<' :: (content ++ .char '>' :: rest)).dropWhile isRunSymbol
      = .char '<' :: (content ++ .char '>' :: rest) := by
    rw [List.dropWhile_append_of_pos htext]
    rfl
  have htake' : (content ++ .char '>' :: rest).takeWhile isTagSymbol = content := by
    rw [List.takeWhile_append_of_pos hcontent]
    exact List.append_nil content
  have hdrop' : (content ++ .char '>' :: rest).dropWhile isTagSymbol = .char '>' :: rest := by
    rw [List.dropWhile_append_of_pos hcontent]
    rfl
  rw [ofMarkup]
  split
  · next hnil => simp [hdrop] at hnil
  · next inside hcons =>
    obtain ⟨-, rfl⟩ := List.cons.inj (hdrop.symm.trans hcons)
    split
    · next rest' hcons' =>
      obtain ⟨-, rfl⟩ := List.cons.inj (hdrop'.symm.trans hcons')
      rw [htake, htake']
      rfl
    · next hno => exact absurd hdrop' (hno _)

/-- A tag that does not end takes up what could be its content. -/
theorem ofMarkup_of_unterminated {text inside : Markup} (htext : ∀ x ∈ text, x ≠ .char '<')
    (hinside : ∀ rest, inside.dropWhile isTagSymbol ≠ .char '>' :: rest) (start : Nat) :
    ofMarkup start (text ++ .char '<' :: inside) =
      ⟨[], .unterminated ⟨start + text.byteLength,
        start + text.byteLength + 1 + Markup.byteLength (inside.takeWhile isTagSymbol)⟩⟩ := by
  have htext : ∀ x ∈ text, isRunSymbol x = true := fun x hx => isRunSymbol_iff.mpr (htext x hx)
  have htake : (text ++ .char '<' :: inside).takeWhile isRunSymbol = text := by
    rw [List.takeWhile_append_of_pos htext]
    exact List.append_nil text
  have hdrop : (text ++ .char '<' :: inside).dropWhile isRunSymbol = .char '<' :: inside := by
    rw [List.dropWhile_append_of_pos htext]
    rfl
  rw [ofMarkup]
  split
  · next hnil => simp [hdrop] at hnil
  · next inside' hcons =>
    obtain ⟨-, rfl⟩ := List.cons.inj (hdrop.symm.trans hcons)
    split
    · next rest hcons' => exact absurd hcons' (hinside rest)
    · rw [htake]

/-- How markup is made of runs and tags: at the end stands a run, or a tag that does not end. -/
inductive Parts : Markup → Prop
  | run {text : Markup} : (∀ x ∈ text, x ≠ .char '<') → Parts text
  | tag {text content rest : Markup} : (∀ x ∈ text, x ≠ .char '<') →
      (∀ x ∈ content, x ≠ .char '<' ∧ x ≠ .char '>') → Parts rest →
      Parts (text ++ .char '<' :: (content ++ .char '>' :: rest))
  | unterminated {text inside : Markup} : (∀ x ∈ text, x ≠ .char '<') →
      (∀ rest, inside.dropWhile isTagSymbol ≠ .char '>' :: rest) →
      Parts (text ++ .char '<' :: inside)

theorem parts (m : Markup) : Parts m := by
  have start : Nat := 0
  have htext : ∀ {m : Markup}, ∀ x ∈ m.takeWhile isRunSymbol, x ≠ .char '<' := fun x hx =>
    isRunSymbol_iff.mp (List.mem_takeWhile_imp hx)
  have hfront : ∀ {m inside : Markup} {x : Symbol}, m.dropWhile isRunSymbol = x :: inside →
      m = m.takeWhile isRunSymbol ++ .char '<' :: inside := by
    intro m inside x hdrop
    obtain ⟨hm, hx⟩ := eq_append_of_dropWhile hdrop
    obtain rfl : x = .char '<' := by simpa [isRunSymbol, Symbol.isChar] using hx
    exact hm
  fun_induction ofMarkup start m with
  | case1 start m run hdrop =>
    exact .run fun x hx => isRunSymbol_iff.mp (List.dropWhile_eq_nil_iff.mp hdrop x hx)
  | case2 start m run bracket x inside hdrop tag rest hdrop' cutting ih =>
    rw [hfront hdrop, (eq_append_of_dropWhile hdrop').1]
    exact .tag htext (fun y hy => isTagSymbol_iff.mp (List.mem_takeWhile_imp hy)) ih
  | case3 start m run bracket x inside hdrop tag hinside =>
    rw [hfront hdrop]
    exact .unterminated htext hinside

/-- The run at the front of a markup ends at its first tag. -/
theorem takeWhile_isRunSymbol {text : Markup} (htext : ∀ x ∈ text, x ≠ .char '<')
    (inside : Markup) : (text ++ .char '<' :: inside).takeWhile isRunSymbol = text := by
  apply takeWhile_append_of_head?
  · exact fun x hx => isRunSymbol_iff.mpr (htext x hx)
  · rintro x ⟨⟩
    rfl

end MarkupTemplate.Cutting
