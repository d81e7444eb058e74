import MarkupTemplate.Proofs.Documents
import MarkupTemplate.Proofs.Outline

/-!
# Markup that is put together

    before ──cut──▶ tags, run
    before ++ behind ──cut──▶ tags, (run ++ behind) ──cut──▶ …

Where markup ends outside of every tag, its last run is still open. Markup that is put behind it is
cut as if it were put behind that run, and the builder goes on from where it is. So what is read of
two markups that begin in the same way can be compared from there on
(`Outline.ofMarkup_append_congr`).
-/

namespace MarkupTemplate

variable {dialect : Dialect} {shapes : List Shape}

namespace Cutting

/-! ## The same markup elsewhere -/

/-- Markup is cut in the same way wherever it begins. -/
theorem similar_ofMarkup (start start' : Nat) (m : Markup) :
    (ofMarkup start m).Similar (ofMarkup start' m) := by
  induction parts m generalizing start start' with
  | run htext =>
    rw [ofMarkup_of_run htext, ofMarkup_of_run htext]
    exact ⟨.nil, .run rfl⟩
  | tag htext hcontent _ ih =>
    rw [ofMarkup_of_tag htext hcontent, ofMarkup_of_tag htext hcontent]
    exact ⟨.cons ⟨rfl, rfl⟩ (ih _ _).tags, (ih _ _).ending⟩
  | unterminated htext hinside =>
    rw [ofMarkup_of_unterminated htext hinside, ofMarkup_of_unterminated htext hinside]
    exact ⟨.nil, .unterminated _ _⟩

/-- Symbols that are put in front join the first run, of which only the text matters. -/
theorem similar_append {front front' m : Markup} (hfront : ∀ x ∈ front, x ≠ .char '<')
    (hfront' : ∀ x ∈ front', x ≠ .char '<')
    (h : (front ++ m.takeWhile isRunSymbol).normalized
      = (front' ++ m.takeWhile isRunSymbol).normalized) (start start' : Nat) :
    (ofMarkup start (front ++ m)).Similar (ofMarkup start' (front' ++ m)) := by
  have htext : ∀ (s s' : Nat) {text text' : Markup}, text.normalized = text'.normalized →
      (⟨s, text⟩ : Run).text = (⟨s', text'⟩ : Run).text := by
    intro s s' text text' htext
    rw [Run.text_eq, Run.text_eq]
    exact congrArg Interpolation.ofMarkup htext
  cases parts m with
  | run hm =>
    have htake := List.takeWhile_eq_self_iff.mpr fun x hx => isRunSymbol_iff.mpr (hm x hx)
    rw [htake] at h
    rw [ofMarkup_of_run (List.forall_mem_append.mpr ⟨hfront, hm⟩),
      ofMarkup_of_run (List.forall_mem_append.mpr ⟨hfront', hm⟩)]
    exact ⟨.nil, .run (htext _ _ h)⟩
  | tag hm hcontent _ =>
    rw [takeWhile_isRunSymbol hm] at h
    rw [← List.append_assoc, ← List.append_assoc,
      ofMarkup_of_tag (List.forall_mem_append.mpr ⟨hfront, hm⟩) hcontent,
      ofMarkup_of_tag (List.forall_mem_append.mpr ⟨hfront', hm⟩) hcontent]
    exact ⟨.cons ⟨htext _ _ h, rfl⟩ (similar_ofMarkup _ _ _).tags, (similar_ofMarkup _ _ _).ending⟩
  | unterminated hm hinside =>
    rw [← List.append_assoc, ← List.append_assoc,
      ofMarkup_of_unterminated (List.forall_mem_append.mpr ⟨hfront, hm⟩) hinside,
      ofMarkup_of_unterminated (List.forall_mem_append.mpr ⟨hfront', hm⟩) hinside]
    exact ⟨.nil, .unterminated _ _⟩

/-! ## The run that is still open -/

/-- What is put behind markup is put behind its last run. -/
theorem ofMarkup_append {start : Nat} {m : Markup} {run : Run}
    (h : (ofMarkup start m).ending = .run run) (n : Markup) :
    ofMarkup start (m ++ n) =
      ⟨(ofMarkup start m).tags ++ (ofMarkup run.start (run.symbols ++ n)).tags,
        (ofMarkup run.start (run.symbols ++ n)).ending⟩ := by
  induction parts m generalizing start with
  | run htext =>
    rw [ofMarkup_of_run htext] at h ⊢
    cases h
    rfl
  | tag htext hcontent _ ih =>
    rw [ofMarkup_of_tag htext hcontent] at h ⊢
    rw [List.append_assoc, List.cons_append, List.append_assoc, List.cons_append,
      ofMarkup_of_tag htext hcontent, ih h]
    rfl
  | unterminated htext hinside =>
    rw [ofMarkup_of_unterminated htext hinside] at h
    cases h

theorem ne_bracket_of_ending {start : Nat} {m : Markup} {run : Run}
    (h : (ofMarkup start m).ending = .run run) : ∀ x ∈ run.symbols, x ≠ .char '<' := by
  induction parts m generalizing start with
  | run htext =>
    rw [ofMarkup_of_run htext] at h
    cases h
    exact htext
  | tag htext hcontent _ ih =>
    rw [ofMarkup_of_tag htext hcontent] at h
    exact ih h
  | unterminated htext hinside =>
    rw [ofMarkup_of_unterminated htext hinside] at h
    cases h

end Cutting

/-! ## Going on -/

/-- A tag with what stands between its brackets. -/
def Markup.tag (content : Markup) : Markup := .char '<' :: (content ++ [.char '>'])

variable [Alphabet]

namespace Builder

/-- The builder once the tags of a markup are taken. -/
def ofMarkup (dialect : Dialect) (shapes : List Shape) (m : Markup) : Except Misreading Builder :=
  (Cutting.ofMarkup 0 m).tags.foldlM (step dialect shapes) initial

theorem readOn_cons (b : Builder) (p : Run × Tag) (c : Cutting) (length : Nat) :
    b.readOn dialect shapes ⟨p :: c.tags, c.ending⟩ length = (do
      let b ← b.step dialect shapes p
      b.readOn dialect shapes c length) := by
  rw [readOn, List.foldlM_cons, bind_assoc]
  rfl

/-- In front of a tag the builder takes one step. -/
theorem readOn_tag (b : Builder) {text content : Markup} (htext : ∀ x ∈ text, x ≠ .char '<')
    (hcontent : ∀ x ∈ content, x ≠ .char '<' ∧ x ≠ .char '>') (start : Nat) (rest : Markup)
    (length : Nat) :
    b.readOn dialect shapes (Cutting.ofMarkup start (text ++ (Markup.tag content ++ rest))) length
      = (do
        let tag : Tag := ⟨start + text.byteLength, content⟩
        let b ← b.step dialect shapes (⟨start, text⟩, tag)
        b.readOn dialect shapes (Cutting.ofMarkup tag.span.stop rest) length) := by
  have htag : text ++ (Markup.tag content ++ rest)
      = text ++ .char '<' :: (content ++ .char '>' :: rest) := by simp [Markup.tag]
  rw [htag, Cutting.ofMarkup_of_tag htext hcontent, readOn_cons]
  rfl

/-- A tag right behind another one. -/
theorem readOn_tag_nil (b : Builder) {content : Markup}
    (hcontent : ∀ x ∈ content, x ≠ .char '<' ∧ x ≠ .char '>') (start : Nat) (rest : Markup)
    (length : Nat) :
    b.readOn dialect shapes (Cutting.ofMarkup start (Markup.tag content ++ rest)) length = (do
      let tag : Tag := ⟨start, content⟩
      let b ← b.step dialect shapes (⟨start, []⟩, tag)
      b.readOn dialect shapes (Cutting.ofMarkup tag.span.stop rest) length) :=
  b.readOn_tag (List.forall_mem_nil _) hcontent start rest length

end Builder

/-- The builder goes on behind a markup from where it is. -/
theorem Tree.ofMarkup_append {before : Markup} {run : Run}
    (h : (Cutting.ofMarkup 0 before).ending = .run run) (behind : Markup) :
    ofMarkup dialect shapes (before ++ behind) = (do
      let b ← Builder.ofMarkup dialect shapes before
      b.readOn dialect shapes (Cutting.ofMarkup run.start (run.symbols ++ behind))
        (Markup.byteLength (before ++ behind))) := by
  rw [ofMarkup_eq_readOn, Cutting.ofMarkup_append h, Builder.readOn, List.foldlM_append,
    bind_assoc]
  rfl

/-- Markups that begin in the same way are compared from there on. -/
theorem Tree.ofMarkup_append_agree {R : Tree → Tree → Prop} {before behind behind' : Markup}
    {run : Run} (hrun : (Cutting.ofMarkup 0 before).ending = .run run)
    (h : ∀ l b length length', Builder.ofMarkup dialect shapes before = .ok b →
      Reads dialect shapes l b →
      Agree R
        (b.readOn dialect shapes (Cutting.ofMarkup run.start (run.symbols ++ behind)) length)
        (b.readOn dialect shapes (Cutting.ofMarkup run.start (run.symbols ++ behind')) length')) :
    Agree R (ofMarkup dialect shapes (before ++ behind))
      (ofMarkup dialect shapes (before ++ behind')) := by
  rw [ofMarkup_append hrun, ofMarkup_append hrun]
  cases hb : Builder.ofMarkup dialect shapes before with
  | error e => exact .error rfl
  | ok b => exact h _ b _ _ hb (Builder.reads_foldlM (l := []) (.margin .nil) hb)

/-- What stands behind a markup may be replaced by what is read alike there. -/
theorem Outline.ofMarkup_append_congr {before behind behind' : Markup} {run : Run}
    (hrun : (Cutting.ofMarkup 0 before).ending = .run run)
    (h : ∀ l b length length', Builder.ofMarkup dialect shapes before = .ok b →
      Reads dialect shapes l b →
      Agree (fun e e' => e.outline = e'.outline)
        (b.readOn dialect shapes (Cutting.ofMarkup run.start (run.symbols ++ behind)) length)
        (b.readOn dialect shapes (Cutting.ofMarkup run.start (run.symbols ++ behind')) length')) :
    ofMarkup dialect shapes (before ++ behind) = ofMarkup dialect shapes (before ++ behind') :=
  (Tree.ofMarkup_append_agree hrun h).outline_eq

end MarkupTemplate
