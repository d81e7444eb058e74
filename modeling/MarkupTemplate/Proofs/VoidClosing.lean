import MarkupTemplate.Libraries
import MarkupTemplate.Proofs.FilledTags
import MarkupTemplate.Proofs.Joining

/-!
# Closing tags of void elements

    before </name> behind   ──read──▶ outline, or cause
    before behind           ──read──▶ the same, if no text is cut in two

A void element is complete once it is opened, so no open element is void and the closing tag of a
void element closes none. It is passed over, but as a tag it still ends the run in front of it. If
that run is blank then nothing is changed by the tag. If it holds a text then the tag is in its way:
the run does not stand before the closing tag of its element any more and has no place
(`ofMarkup_voidClosing_text`).
-/

namespace MarkupTemplate

variable {dialect : Dialect} {shapes : List Shape}

/-! ## A list in front of a tag -/

namespace Run

/-- Blank symbols behind a run do nothing to the list in it. -/
theorem list?_append_blank {start start' : Nat} {symbols blank : Markup}
    (hblank : ∀ x ∈ blank, OpeningTag.isBlankSymbol x = true) :
    (⟨start, symbols ++ blank⟩ : Run).list? shapes = (⟨start', symbols⟩ : Run).list? shapes := by
  have hslots : blank.slots = [] := by
    have hblank : (⟨start, blank⟩ : Run).isBlank = true := isBlank_iff_forall.mpr hblank
    exact slots_of_isBlank hblank
  show (Markup.slots (symbols ++ blank)).find? _ = (Markup.slots symbols).find? _
  rw [Markup.slots_append, hslots, List.append_nil]

end Run

namespace Builder

variable {frame : Frame} {below : List Frame} {root : Option Tree} {slot : Slot}

variable [Alphabet]

/-- The place of a list does not depend on the tag behind it. -/
theorem step_of_list? {r r' : Run} (hr : r.list? shapes = some slot) (hr' : r'.isBlank = true)
    (t : Tag) :
    step dialect shapes ⟨frame :: below, root⟩ (r, t)
      = step dialect shapes ⟨frame.push (.splice slot) :: below, root⟩ (r', t) := by
  have htag : (frame.push (.splice slot)).head.tag = frame.head.tag := rfl
  cases ht : t.closing? with
  | none => rw [step_of_opening ht, step_of_opening ht, place_of_list? hr, place_of_isBlank _ hr']
  | some name =>
    rw [step_of_closing? ht, step_of_closing? ht, closeTag_cons, closeTag_cons, htag,
      place_of_list? hr, place_of_list? hr, place_of_isBlank _ hr', place_of_isBlank _ hr']

/-- A run with a list has its place before whatever stands behind it. -/
theorem readOn_of_list?_agree {r : Run} (hbracket : ∀ x ∈ r.symbols, x ≠ .char '<')
    (hr : r.list? shapes = some slot) {behind : Markup}
    (hbehind : ∀ x ∈ behind.takeWhile Cutting.isRunSymbol, OpeningTag.isBlankSymbol x = true)
    (start length length' : Nat) :
    Agree (fun e e' => e.outline = e'.outline)
      (readOn dialect shapes ⟨frame.push (.splice slot) :: below, root⟩
        (Cutting.ofMarkup start behind) length)
      (readOn dialect shapes ⟨frame :: below, root⟩
        (Cutting.ofMarkup r.start (r.symbols ++ behind)) length') := by
  cases Cutting.parts behind with
  | run htext =>
    rw [Cutting.ofMarkup_of_run htext,
      Cutting.ofMarkup_of_run (List.forall_mem_append.mpr ⟨hbracket, htext⟩)]
    exact .error rfl
  | @tag text content rest htext hcontent _ =>
    rw [Cutting.takeWhile_isRunSymbol htext] at hbehind
    have hlist : (⟨r.start, r.symbols ++ text⟩ : Run).list? shapes = some slot :=
      (Run.list?_append_blank hbehind).trans hr
    have hblank : (⟨start, text⟩ : Run).isBlank = true := Run.isBlank_iff_forall.mpr hbehind
    rw [← List.append_assoc, Cutting.ofMarkup_of_tag htext hcontent,
      Cutting.ofMarkup_of_tag (List.forall_mem_append.mpr ⟨hbracket, htext⟩) hcontent,
      readOn_cons, readOn_cons, step_of_list? hlist hblank]
    exact Agree.bind (step_agree (.refl _) rfl rfl) fun b b' hb =>
      readOn_agree hb (Cutting.similar_ofMarkup _ _ _) _ _
  | unterminated htext hinside =>
    rw [← List.append_assoc, Cutting.ofMarkup_of_unterminated htext hinside,
      Cutting.ofMarkup_of_unterminated (List.forall_mem_append.mpr ⟨hbracket, htext⟩) hinside]
    exact .error rfl

end Builder

/-! ## The tag that is passed over -/

/-- A closing tag that is passed over ends the run in front of it. -/
theorem Builder.readOn_void [Alphabet] {b : Builder} {l : List Lexeme}
    (h : Reads dialect shapes l b) {r : Run}
    (hbracket : ∀ x ∈ r.symbols, x ≠ .char '<') {name : Markup}
    (hname : ∀ x ∈ name, x ≠ .char '<' ∧ x ≠ .char '>')
    (hvoid : dialect.isVoid (Text.trimEnd (Text.trimStart name.text)) = true) (behind : Markup)
    (length : Nat) : ∃ start,
      b.readOn dialect shapes
        (Cutting.ofMarkup r.start (r.symbols ++ (Markup.tag (.char '/' :: name) ++ behind))) length
      = (do
        let b ← b.place shapes r false
        b.readOn dialect shapes (Cutting.ofMarkup start behind) length) := by
  have hcontent : ∀ x ∈ Symbol.char '/' :: name, x ≠ .char '<' ∧ x ≠ .char '>' :=
    List.forall_mem_cons.mpr ⟨by decide, hname⟩
  rw [readOn_tag b hbracket hcontent]
  dsimp only
  rw [step_of_closing? (Tag.closing?_eq_some_iff.mpr ⟨name, rfl, rfl⟩), h.closeTag_of_isVoid hvoid]
  exact ⟨_, rfl⟩

/-- A run that has no place in front of such a tag is where the reading ends. -/
theorem Tree.ofMarkup_void_of_stray [Alphabet] {before name : Markup} {run : Run} {b : Builder}
    {e : Misreading} (hrun : (Cutting.ofMarkup 0 before).ending = .run run)
    (hname : ∀ x ∈ name, x ≠ .char '<' ∧ x ≠ .char '>')
    (hvoid : dialect.isVoid (Text.trimEnd (Text.trimStart name.text)) = true)
    (hb : Builder.ofMarkup dialect shapes before = .ok b)
    (hplace : b.place shapes run false = .error e) (behind : Markup) :
    ofMarkup dialect shapes (before ++ (Markup.tag (.char '/' :: name) ++ behind)) = .error e := by
  have hreads := Builder.reads_foldlM (l := []) (.margin .nil) hb
  obtain ⟨start, hstart⟩ := Builder.readOn_void hreads (Cutting.ne_bracket_of_ending hrun) hname
    hvoid behind (Markup.byteLength (before ++ (Markup.tag (.char '/' :: name) ++ behind)))
  rw [ofMarkup_append hrun, hb]
  show b.readOn dialect shapes _ _ = _
  rw [hstart, hplace]
  rfl

namespace Outline

open Markup

/-- **When the closing tag of a void element may be left out.** Let some markup end outside of every
tag, with a run of text that ends at such a closing tag. If the run is blank then the tag changes
nothing of what is read. If the run is the place of a list in an open element then it changes
nothing as long as the run behind it is blank. Any other run is cut off by the tag and has no place.
If the markup in front fails by itself then it does so with and without the tag. -/
theorem ofMarkup_voidClosing [Alphabet] {before name : Markup} {run : Run}
    (hrun : (Cutting.ofMarkup 0 before).ending = .run run)
    (hname : ∀ x ∈ name, x ≠ .char '<' ∧ x ≠ .char '>')
    (hvoid : dialect.isVoid (Text.trimEnd (Text.trimStart name.text)) = true) (behind : Markup) :
    (run.isBlank = true →
      ofMarkup dialect shapes (before ++ (tag (.char '/' :: name) ++ behind))
        = ofMarkup dialect shapes (before ++ behind)) ∧
    (∀ b, Builder.ofMarkup dialect shapes before = .ok b → b.stack ≠ [] →
      run.list? shapes ≠ none →
      (∀ x ∈ behind.takeWhile Cutting.isRunSymbol, OpeningTag.isBlankSymbol x = true) →
      ofMarkup dialect shapes (before ++ (tag (.char '/' :: name) ++ behind))
        = ofMarkup dialect shapes (before ++ behind)) ∧
    (∀ b, Builder.ofMarkup dialect shapes before = .ok b → run.isBlank = false →
      b.stack = [] ∨ run.list? shapes = none →
      ofMarkup dialect shapes (before ++ (tag (.char '/' :: name) ++ behind))
        = .error (.strayText (!b.stack.isEmpty))) ∧
    (∀ e, Builder.ofMarkup dialect shapes before = .error e →
      ofMarkup dialect shapes (before ++ (tag (.char '/' :: name) ++ behind)) = .error e.cause ∧
      ofMarkup dialect shapes (before ++ behind) = .error e.cause) := by
  have hbracket := Cutting.ne_bracket_of_ending hrun
  refine ⟨fun hblank => ?blank, fun b hb hstack hlist hbehind => ?list,
    fun b hb hblank hplace => ?text, fun e he => ?failed⟩
  case blank =>
    refine ofMarkup_append_congr hrun fun l b length length' _ hreads => ?_
    obtain ⟨start, hstart⟩ := Builder.readOn_void hreads hbracket hname hvoid behind length
    rw [hstart, Builder.place_of_isBlank b hblank]
    have hfront := normalized_blank_append (Run.isBlank_iff_forall.mp hblank)
      (behind.takeWhile Cutting.isRunSymbol)
    have hempty : ∀ x ∈ ([] : Markup), x ≠ .char '<' := List.forall_mem_nil _
    exact Builder.readOn_agree (.refl b)
      (Cutting.similar_append hempty hbracket hfront.symm _ _) _ _
  case list =>
    refine ofMarkup_append_congr hrun fun l b' length length' hb' hreads => ?_
    cases hb.symm.trans hb'
    obtain ⟨start, hstart⟩ := Builder.readOn_void hreads hbracket hname hvoid behind length
    obtain ⟨slot, hslot⟩ := Option.ne_none_iff_exists'.mp hlist
    obtain ⟨stack, root⟩ := b
    obtain ⟨frame, below, rfl⟩ := List.exists_cons_of_ne_nil hstack
    rw [hstart, Builder.place_of_list? hslot]
    exact Builder.readOn_of_list?_agree hbracket hslot hbehind _ _ _
  case text =>
    have hstray : b.place shapes run false = .error (b.strayText run) := by
      refine Builder.place_of_stray hblank fun frame hframe => ⟨?_, .inl rfl⟩
      refine hplace.resolve_left fun hnil => ?_
      rw [hnil] at hframe
      cases hframe
    rw [ofMarkup, Tree.ofMarkup_void_of_stray hrun hname hvoid hb hstray]
    rfl
  case failed =>
    rw [ofMarkup, ofMarkup, Tree.ofMarkup_append hrun, Tree.ofMarkup_append hrun, he]
    exact ⟨rfl, rfl⟩

/-- A closing tag in a list: behind white space, behind items that are spliced in, and behind
text. -/
theorem ofMarkup_voidClosing_list :
    let name := ofText (txt " br")
    let behind := ofText (txt "\n</ul>")
    let items : Markup := ofText (txt "<ul>") ++ [.slot ⟨1, by decide, by decide⟩]
    Dialect.standard.isVoid (Text.trimEnd (Text.trimStart (text name))) = true ∧
      ofMarkup .standard [] (ofText (txt "<ul> ") ++ (tag (.char '/' :: name) ++ behind))
        = ofMarkup .standard [] (ofText (txt "<ul> ") ++ behind) ∧
      ofMarkup .standard [.list] (items ++ (tag (.char '/' :: name) ++ behind))
        = ofMarkup .standard [.list] (items ++ behind) ∧
      (ofMarkup .standard [.list] (items ++ behind)).isOk = true ∧
      ofMarkup .standard [.scalar] (items ++ (tag (.char '/' :: name) ++ behind))
        = .error (.strayText true) := by
  intro name behind items
  have hname : ∀ x ∈ name, x ≠ .char '<' ∧ x ≠ .char '>' := by decide +kernel
  have hvoid : Dialect.standard.isVoid (Text.trimEnd (Text.trimStart (text name))) = true := by
    decide +kernel
  have hrun : (Cutting.ofMarkup 0 items).ending
      = .run ⟨4, [.slot ⟨1, by decide, by decide⟩]⟩ := by
    decide +kernel
  have hrun' : (Cutting.ofMarkup 0 (ofText (txt "<ul> "))).ending
      = .run ⟨4, ofText (txt " ")⟩ := by
    decide +kernel
  -- The list is open behind the first tag, whatever is bound to the slot.
  have hopen : ∀ shapes ∈ [[Shape.list], [.scalar]],
      (Builder.ofMarkup .standard shapes items).map (·.stack.length) = .ok 1 := by
    decide +kernel
  obtain ⟨b, hb, hstack⟩ := map_eq_ok.mp (hopen [.list] (by decide))
  obtain ⟨b', hb', hstack'⟩ := map_eq_ok.mp (hopen [.scalar] (by decide))
  have hempty : b'.stack.isEmpty = false :=
    List.isEmpty_eq_false_iff.mpr (List.ne_nil_of_length_eq_add_one hstack')
  have htext := (ofMarkup_voidClosing hrun hname hvoid behind).2.2.1 b' hb' rfl (.inr rfl)
  rw [hempty] at htext
  exact ⟨hvoid, (ofMarkup_voidClosing hrun' hname hvoid behind).1 rfl,
    (ofMarkup_voidClosing hrun hname hvoid behind).2.1 b hb
      (List.ne_nil_of_length_eq_add_one hstack) (by decide +kernel) (by decide +kernel),
    by decide +kernel, htext⟩

/-- **A text in front of such a tag is content without the tag, and out of place with it.** -/
theorem ofMarkup_voidClosing_text :
    ¬ ∀ (dialect : Dialect) (shapes : List Shape) (before name behind : Markup) (run : Run),
      (Cutting.ofMarkup 0 before).ending = .run run →
      (∀ x ∈ name, x ≠ .char '<' ∧ x ≠ .char '>') →
      dialect.isVoid (Text.trimEnd (Text.trimStart name.text)) = true →
      ofMarkup dialect shapes (before ++ (tag (.char '/' :: name) ++ behind))
        = ofMarkup dialect shapes (before ++ behind) := by
  intro h
  have hsame := h .standard [] (ofText (txt "<p>one")) (ofText (txt "br")) (ofText (txt "</p>"))
    ⟨3, ofText (txt "one")⟩ (by decide +kernel) (by decide +kernel) (by decide +kernel)
  have hwith : (ofMarkup .standard [] (ofText (txt "<p>one") ++
      (tag (.char '/' :: ofText (txt "br")) ++ ofText (txt "</p>")))).isOk = false := by
    decide +kernel
  have hwithout : (ofMarkup .standard [] (ofText (txt "<p>one") ++ ofText (txt "</p>"))).isOk
      = true := by
    decide +kernel
  rw [hsame, hwithout] at hwith
  cases hwith

end Outline

end MarkupTemplate
