import MarkupTemplate.Proofs.Building
import MarkupTemplate.Proofs.Cuttings
import MarkupTemplate.Proofs.MarkedTags
import MarkupTemplate.Template

/-!
# Trees that are read in marked text

The reader of a marked text cuts it at its angle brackets, tokens and all, and looks into the sites
for what is in each run and in each tag. `ofMarked_marked` says that the marked text of a markup is
read as the markup itself: as the same element, or with the same fault. So what is known of markup
is known of the texts that the program reads, and `compile_eq` opens the compiler on markup.

Markup and text are cut at the same places, and a run or a tag of the one is that of the other
*written out*. The proof goes along the runs and tags, with the markup that is in front of them.
-/

namespace MarkupTemplate

/-! ## Runs and tags that are written out -/

/-- A run with the text of its symbols. -/
def Run.written (r : Run) : Run := ⟨r.start, .ofText r.symbols.text⟩

/-- A tag with the text of its content. -/
def Tag.written (t : Tag) : Tag := ⟨t.start, .ofText t.content.text⟩

namespace Markup

theorem byteLength_ofText (t : Text) : (ofText t).byteLength = t.byteLength := by
  rw [← byteLength_text, text_ofText]

theorem takeWhile_ofText_text {p : Symbol → Bool} (hp : Uniform Slot.token p) (m : Markup) :
    (ofText m.text).takeWhile p = ofText (text (m.takeWhile p)) := by
  rw [← takeWhile_text hp rfl]
  exact List.takeWhile_map

theorem byteLength_takeWhile_ofText_text {p : Symbol → Bool} (hp : Uniform Slot.token p)
    (m : Markup) : byteLength ((ofText m.text).takeWhile p) = byteLength (m.takeWhile p) := by
  rw [takeWhile_ofText_text hp, byteLength_ofText, byteLength_text]

end Markup

namespace Run

theorem isBlank_written (r : Run) : r.written.isBlank = r.isBlank := by
  have hblank := (uniform_isBlankSymbol Slot.inert_token).not.any_fill Slot.inert_token
    (m := r.symbols)
  rw [isBlank, isBlank, List.all_eq_not_any_not, List.all_eq_not_any_not, written,
    Markup.ofText_text]
  exact congrArg (!·) hblank

theorem trimmedSpan_eq (r : Run) :
    r.trimmedSpan =
      let start := r.start + Markup.byteLength (r.symbols.takeWhile OpeningTag.isBlankSymbol)
      ⟨start, start + r.symbols.trimmed.byteLength⟩ := rfl

theorem trimmedSpan_written (r : Run) : r.written.trimmedSpan = r.trimmedSpan := by
  have hleading := Markup.byteLength_takeWhile_ofText_text
    (uniform_isBlankSymbol Slot.inert_token) r.symbols
  have htrimmed : Markup.byteLength r.written.symbols.trimmed
      = Markup.byteLength r.symbols.trimmed := by
    rw [← Markup.byteLength_text, ← Markup.byteLength_text, written, Markup.trimmed_ofText,
      Markup.trimmed_text, Markup.text_ofText]
  rw [trimmedSpan_eq, trimmedSpan_eq, htrimmed]
  simp only [written, hleading]

end Run

theorem Tag.span_written (t : Tag) : t.written.span = t.span := by
  rw [span, span, written, Markup.byteLength_ofText, Markup.byteLength_text]

/-- A slot does not look like the slash of a closing tag. -/
theorem Tag.closing?_written (t : Tag) : t.written.closing? = t.closing? := by
  obtain ⟨start, content⟩ := t
  rw [closing?, closing?, written]
  cases content with
  | nil => rfl
  | cons x content =>
    cases x with
    | slot s => rfl
    | char c =>
      by_cases hc : c = '/'
      · subst hc
        show some (Text.trimEnd (Text.trimStart (Markup.text (.ofText (Markup.text content))))) = _
        rw [Markup.text_ofText]
        rfl
      · simp [Symbol.text, hc]

/-! ## What stands in a run and in a tag -/

namespace Reading

variable [Alphabet]

/-- A run is read in a marked text as it is read in markup. -/
theorem run_written (front symbols back : Markup) :
    (ofSites (front ++ (symbols ++ back)).sites).run (Run.written ⟨front.byteLength, symbols⟩)
      = ofSymbols.run ⟨front.byteLength, symbols⟩ := by
  simp only [ofSites, ofSymbols, Run.written, Markup.text_ofText]
  rw [Markup.byteLength_text, Markup.within_sites, Interpolation.scan_sites]

/-- So is a tag, whose content stands behind the bracket. -/
theorem tag_written (front content back : Markup) {start : Nat}
    (hstart : start + 1 = front.byteLength) :
    (ofSites (front ++ (content ++ back)).sites).tag (Tag.written ⟨start, content⟩)
      = ofSymbols.tag ⟨start, content⟩ := by
  simp only [ofSites, ofSymbols, Tag.span_written]
  rw [Tag.written, Markup.text_ofText]
  exact OpeningTag.readMarked_sites front content back hstart

end Reading

/-! ## Building on what is written out -/

namespace Builder

variable {reading : Reading} {dialect : Dialect} {shapes : List Shape} {b : Builder} {r : Run}
  {t : Tag}

theorem strayText_written (b : Builder) (r : Run) : b.strayText r.written = b.strayText r := by
  rw [strayText, strayText, Run.trimmedSpan_written]

section

variable [Alphabet]

theorem placeBy_written (hrun : reading.run r.written = Reading.ofSymbols.run r) (b : Builder)
    (closing : Bool) : b.placeBy reading shapes r.written closing = place shapes b r closing := by
  simp only [place, placeBy, Run.isBlank_written, strayText_written, hrun]

theorem openTagBy_written (htag : reading.tag t.written = Reading.ofSymbols.tag t) (b : Builder) :
    b.openTagBy reading dialect t.written = openTag dialect b t := by
  simp only [openTag, openTagBy, htag, Tag.span_written]

theorem closeTagBy_written (hrun : reading.run r.written = Reading.ofSymbols.run r) (b : Builder)
    (span : Span) (name : Text) :
    b.closeTagBy reading dialect shapes r.written span name
      = closeTag dialect shapes b r span name := by
  simp only [closeTag, closeTagBy, placeBy_written hrun]
  rfl

theorem stepBy_written (hrun : reading.run r.written = Reading.ofSymbols.run r)
    (htag : reading.tag t.written = Reading.ofSymbols.tag t) (b : Builder) :
    b.stepBy reading dialect shapes (r.written, t.written) = step dialect shapes b (r, t) := by
  cases hclosing : t.closing? with
  | some name =>
    rw [stepBy_of_closing? reading (t.closing?_written.trans hclosing), step_of_closing? hclosing,
      Tag.span_written]
    exact closeTagBy_written hrun b t.span name
  | none =>
    rw [stepBy_of_opening reading (t.closing?_written.trans hclosing), step_of_opening hclosing,
      placeBy_written hrun]
    exact congrArg _ (funext (openTagBy_written htag))

/-- What is in front of the rest of a marked text is taken as it is taken in markup. -/
theorem stepBy_sites (front text content rest : Markup) (b : Builder) :
    b.stepBy (.ofSites (front ++ (text ++ .char '<' :: (content ++ .char '>' :: rest))).sites)
        dialect shapes
        (Run.written ⟨front.byteLength, text⟩,
          Tag.written ⟨front.byteLength + text.byteLength, content⟩)
      = step dialect shapes b
          (⟨front.byteLength, text⟩, ⟨front.byteLength + text.byteLength, content⟩) := by
  have hrun := Reading.run_written front text (.char '<' :: (content ++ .char '>' :: rest))
  have hwhole : front ++ (text ++ .char '<' :: (content ++ .char '>' :: rest))
      = front ++ (text ++ [Symbol.char '<']) ++ (content ++ .char '>' :: rest) := by simp
  have hstart : front.byteLength + text.byteLength + 1
      = Markup.byteLength (front ++ (text ++ [.char '<'])) := by
    simp only [Markup.byteLength_append, Markup.byteLength_cons, Markup.byteLength_nil]
    rfl
  have htag := Reading.tag_written (front ++ (text ++ [.char '<'])) content (.char '>' :: rest)
    hstart
  rw [← hwhole] at htag
  exact stepBy_written hrun htag b

end

theorem finish_written (b : Builder) (length : Nat) (r : Run) :
    b.finish length (.run r.written) = b.finish length (.run r) := by
  simp only [finish, Run.isBlank_written, strayText_written]

end Builder

/-! ## Cutting and building -/

namespace Cutting

theorem ofText_text_no_open {m : Markup} (h : ∀ x ∈ m, x ≠ .char '<') :
    ∀ x ∈ Markup.ofText m.text, x ≠ .char '<' := by
  rw [Markup.ofText_text]
  exact Markup.fill_no_open Slot.inert_token h

theorem ofText_text_no_bracket {m : Markup} (h : ∀ x ∈ m, x ≠ .char '<' ∧ x ≠ .char '>') :
    ∀ x ∈ Markup.ofText m.text, x ≠ .char '<' ∧ x ≠ .char '>' := by
  rw [Markup.ofText_text]
  exact Markup.fill_no_bracket Slot.inert_token h

theorem uniform_isTagSymbol : Uniform Slot.token isTagSymbol := by
  intro s c hc
  have hne := (Slot.inert_token s).no_bracket c hc
  simp [isTagSymbol, Symbol.isChar, hne]

/-- A tag that is not terminated in the markup is not terminated when it is written out. -/
theorem dropWhile_ofText_text {inside : Markup}
    (h : ∀ rest, inside.dropWhile isTagSymbol ≠ .char '>' :: rest) (rest : Markup) :
    (Markup.ofText inside.text).dropWhile isTagSymbol ≠ .char '>' :: rest := by
  rw [Markup.ofText_text, uniform_isTagSymbol.dropWhile_fill Slot.inert_token]
  cases hdrop : inside.dropWhile isTagSymbol with
  | nil => simp
  | cons x rest' =>
    rw [Markup.fill_cons]
    cases x with
    | slot s => simp [Slot.token, Symbol.fill, sigil]
    | char c =>
      rintro heq
      obtain rfl : c = '>' := by simpa using (List.cons.inj heq).1
      exact h rest' hdrop

end Cutting

variable [Alphabet]

namespace Tree

variable {dialect : Dialect} {shapes : List Shape}

/-- The end of a marked text, with `front` in front of it, is built on as the end of the markup. -/
theorem ofCutting_written (whole : Nat) (front : Markup) {m : Markup} (h : Cutting.Parts m)
    (b : Builder) :
    (do
      let cutting := Cutting.ofMarkup front.byteLength (Markup.ofText m.text)
      let b ← cutting.tags.foldlM
        (Builder.stepBy (.ofSites (front ++ m).sites) dialect shapes) b
      b.finish whole cutting.ending)
    = (do
      let cutting := Cutting.ofMarkup front.byteLength m
      let b ← cutting.tags.foldlM (Builder.step dialect shapes) b
      b.finish whole cutting.ending) := by
  induction h generalizing front b with
  | @run text htext =>
    rw [Cutting.ofMarkup_of_run htext,
      Cutting.ofMarkup_of_run (Cutting.ofText_text_no_open htext)]
    exact Builder.finish_written b whole ⟨front.byteLength, text⟩
  | @unterminated text inside htext hinside =>
    have hwritten : Markup.ofText (Markup.text (text ++ .char '<' :: inside))
        = Markup.ofText text.text ++ .char '<' :: Markup.ofText inside.text := by
      simp [Symbol.text]
    rw [hwritten, Cutting.ofMarkup_of_unterminated htext hinside,
      Cutting.ofMarkup_of_unterminated (Cutting.ofText_text_no_open htext)
        (Cutting.dropWhile_ofText_text hinside),
      Markup.byteLength_takeWhile_ofText_text Cutting.uniform_isTagSymbol, Markup.byteLength_ofText,
      Markup.byteLength_text]
    rfl
  | @tag text content rest htext hcontent _ ih =>
    have hwritten : Markup.ofText
          (Markup.text (text ++ .char '<' :: (content ++ .char '>' :: rest)))
        = Markup.ofText text.text ++ .char '<' :: (Markup.ofText content.text ++ .char '>' ::
            Markup.ofText rest.text) := by
      simp [Symbol.text]
    let front' : Markup := front ++ (text ++ .char '<' :: (content ++ [.char '>']))
    have hwhole : front ++ (text ++ .char '<' :: (content ++ .char '>' :: rest))
        = front' ++ rest := by
      simp [front']
    have hstart : front.byteLength + text.byteLength + 1 + content.byteLength + 1
        = front'.byteLength := by
      have hopen : (Symbol.char '<').byteLength = 1 := rfl
      have hclose : (Symbol.char '>').byteLength = 1 := rfl
      simp only [front', Markup.byteLength_append, Markup.byteLength_cons, Markup.byteLength_nil,
        hopen, hclose]
      omega
    rw [hwritten, Cutting.ofMarkup_of_tag htext hcontent,
      Cutting.ofMarkup_of_tag (Cutting.ofText_text_no_open htext)
        (Cutting.ofText_text_no_bracket hcontent)]
    simp only [Markup.byteLength_ofText, Markup.byteLength_text, List.foldlM_cons, bind_assoc,
      hstart]
    refine (congrArg (· >>= _) (Builder.stepBy_sites front text content rest b)).trans
      (congrArg _ (funext fun b => ?_))
    rw [hwhole]
    exact ih front' b

/-- **A marked text is read as its markup.** -/
theorem ofMarked_marked (m : Markup) :
    ofMarked dialect shapes m.marked = ofMarkup dialect shapes m := by
  rw [ofMarked, ofMarkup, Markup.marked, Markup.byteLength_text]
  exact ofCutting_written m.byteLength [] (Cutting.parts m) .initial

end Tree

/-- What is compiled is the element that the markup describes. -/
theorem Template.compile_eq (dialect : Dialect) (shapes : List Shape) (key : Key) (m : Markup) :
    compile dialect shapes key m =
      match Tree.ofMarkup dialect shapes m with
      | .ok tree => .ok (ofTree key tree)
      | .error e => .error ((Fault.ofSpan m.text e.span e.cause).named key) := by
  cases h : Tree.ofMarkup dialect shapes m <;> simp only [compile, Tree.ofMarked_marked, h]

end MarkupTemplate
