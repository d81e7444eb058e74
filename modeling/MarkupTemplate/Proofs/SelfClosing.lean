import MarkupTemplate.Libraries
import MarkupTemplate.Proofs.Joining
import MarkupTemplate.Proofs.Writing

/-!
# Tags that close themselves

    before <content/> behind             ──read──▶ outline, or cause
    before <content></name> behind       ──read──▶ the same

A slash at the end of a tag stands for the closing tag of its element. Where it is taken for that,
behind a content without white space and behind white space or a quote, the tag may be written with
a closing tag instead, whatever stands around it. If the tag is void then its element is complete
without the slash, and the closing tag is passed over.
-/

namespace MarkupTemplate

variable {dialect : Dialect} {shapes : List Shape}

/-! ## The slash -/

namespace OpeningTag

open Markup

/-- Whether a slash behind a content closes the element: the content has no white space, or it ends
in white space or a quote. -/
def SlashCloses (content : Markup) : Prop :=
  content.any isBlankSymbol = false ∨
    ∃ c, content.getLast? = some (.char c) ∧ (isBlank c || Word.isQuote c) = true

/-- White space in front of a content does not matter for that. -/
theorem SlashCloses.dropWhile {content : Markup} (h : SlashCloses content) :
    SlashCloses (content.dropWhile isBlankSymbol) := by
  rcases List.eq_nil_or_concat (content.dropWhile isBlankSymbol) with hnil | ⟨front, x, hx⟩
  · rw [hnil]
    exact .inl rfl
  rcases h with hblank | ⟨c, hlast, hc⟩
  · refine .inl (List.any_eq_false.mpr fun y hy => ?_)
    exact List.any_eq_false.mp hblank y ((List.dropWhile_sublist _).subset hy)
  · have hcontent := List.takeWhile_append_dropWhile (p := isBlankSymbol) (l := content)
    rw [hx, List.concat_eq_append, ← List.append_assoc] at hcontent
    rw [← hcontent, List.getLast?_concat] at hlast
    rw [hx, List.concat_eq_append]
    exact .inr ⟨c, by rw [List.getLast?_concat, hlast], hc⟩

theorem splitSlash_concat_slash {content : Markup} (h : SlashCloses content) :
    splitSlash (trimmed (content ++ [.char '/'])) = (content.trimmed, true) := by
  have htaken : (content.dropWhile isBlankSymbol).getLast?.any
        (·.isCharWith fun c => isBlank c || Word.isQuote c) = true ∨
      ¬ (content.dropWhile isBlankSymbol).any isBlankSymbol = true := by
    rcases h.dropWhile with hblank | ⟨c, hlast, hc⟩
    · exact .inr (by rw [hblank]; exact Bool.false_ne_true)
    · exact .inl (by rw [hlast]; exact hc)
  rw [trimmed_concat rfl, splitSlash, List.getLast?_concat, List.dropLast_concat,
    if_pos ⟨rfl, htaken⟩]
  rfl

/-- Whether a content is that of an opening tag that does not close itself, but does with a slash
put at its end. -/
structure TakesSlash (content : Markup) : Prop where
  ne_nil : content ≠ []
  no_bracket : ∀ x ∈ content, x ≠ .char '<' ∧ x ≠ .char '>'
  head_ne : content.head? ≠ some (.char '/')
  last_ne : content.trimmed.getLast? ≠ some (.char '/')
  closes : SlashCloses content

namespace TakesSlash

variable {content : Markup} (h : TakesSlash content)

include h

theorem no_bracket_slash : ∀ x ∈ content ++ [.char '/'], x ≠ .char '<' ∧ x ≠ .char '>' := by
  refine List.forall_mem_append.mpr ⟨h.no_bracket, ?_⟩
  rintro x (_ | ⟨_, ⟨⟩⟩)
  decide

theorem closing?_eq_none (start : Nat) : (⟨start, content⟩ : Tag).closing? = none :=
  Tag.closing?_eq_none h.head_ne

theorem closing?_slash (start : Nat) :
    (⟨start, content ++ [.char '/']⟩ : Tag).closing? = none :=
  Tag.closing?_eq_none (by rw [List.head?_append_of_ne_nil content h.ne_nil]; exact h.head_ne)

variable [Alphabet]

/-- The slash does not change what the tag says otherwise. -/
theorem spells_slash {opening : OpeningTag} {closed : Bool}
    (hspells : Spells content opening closed) :
    closed = false ∧ Spells (content ++ [.char '/']) opening true := by
  have hsplit := splitSlash_of_getLast? h.last_ne
  have hsplit' := splitSlash_concat_slash h.closes
  cases hspells with
  | bare hname hinner =>
    obtain ⟨htrimmed, rfl⟩ := Prod.mk.inj (hsplit.symm.trans hinner)
    rw [htrimmed] at hsplit'
    exact ⟨rfl, .bare hname hsplit'⟩
  | words hblank hwords hreads hinner =>
    obtain ⟨htrimmed, rfl⟩ := Prod.mk.inj (hsplit.symm.trans hinner)
    rw [htrimmed] at hsplit'
    exact ⟨rfl, .words hblank hwords hreads hsplit'⟩

/-- What is no tag is none with a slash at its end. -/
theorem read_slash_fails (hread : ∀ span result, read span content ≠ .ok result)
    (span span' : Span) :
    Agree (fun _ _ => False) (read span (content ++ [.char '/'])) (read span' content) := by
  obtain ⟨_, r, -, hr, -⟩ | ⟨e, e', he, he', hcause⟩ :=
    (read_agree (splitSlash_concat_slash h.closes) (splitSlash_of_getLast? h.last_ne)
      span span').ok_or_error
  · exact absurd hr (hread span' r)
  · rw [he, he']
    exact .error hcause

end TakesSlash

end OpeningTag

/-! ## One step, and two -/

namespace Builder

variable {b : Builder} {content : Markup} {opening : OpeningTag}

variable [Alphabet]

/-- To open an element and to close it at once is to put it in its place. -/
theorem openTag_closeTag {l : List Lexeme} (h : Reads dialect shapes l b) {t : Tag}
    (ht : t.Opens opening false) {r : Run} (hr : r.isBlank = true) (span : Span) :
    (do
      let b ← b.openTag dialect t
      b.closeTag dialect shapes r span opening.name)
      = b.attach (.mk (opening.head t.span) (.nodes [])) := by
  rw [openTag_of_read ht.2, Bool.false_or]
  cases hvoid : dialect.isVoid opening.name with
  | true =>
    rw [if_pos rfl]
    cases hattach : b.attach (.mk (opening.head t.span) (.nodes [])) with
    | error e => rfl
    | ok b' =>
      have hreads := h.attach (.complete ht (.inr hvoid)) hattach
      show b'.closeTag dialect shapes r span opening.name = .ok b'
      rw [hreads.closeTag_of_isVoid hvoid, place_of_isBlank b' hr]
  | false =>
    rw [if_neg Bool.false_ne_true]
    split
    · next hroot =>
      obtain ⟨hstack, hroot⟩ := Bool.and_eq_true_iff.mp hroot
      rw [attach, List.isEmpty_iff.mp hstack, hroot]
      rfl
    · have htag : (opening.head t.span).tag = opening.name := rfl
      show closeTag dialect shapes ⟨⟨opening.head t.span, .nodes []⟩ :: b.stack, b.root⟩ r span
        opening.name = _
      rw [closeTag_cons, if_pos htag, place_of_isBlank _ hr]
      rfl

/-- **One step**: a tag with a slash at its end does what the tag and a closing tag do. -/
theorem step_slash_agree {l : List Lexeme} (h : Reads dialect shapes l b)
    (hslash : OpeningTag.TakesSlash content) {closed : Bool}
    (hspells : OpeningTag.Spells content opening closed) {r r' : Run} (hr' : r'.isBlank = true)
    {t : Tag} (hclosing : t.closing? = some opening.name) (start start' : Nat) :
    Agree Similar (b.step dialect shapes (r, ⟨start, content ++ [.char '/']⟩)) (do
      let b ← b.step dialect shapes (r, ⟨start', content⟩)
      b.step dialect shapes (r', t)) := by
  obtain ⟨rfl, hspells'⟩ := hslash.spells_slash hspells
  have hopens : (⟨start', content⟩ : Tag).Opens opening false :=
    ⟨hslash.closing?_eq_none start', OpeningTag.read_eq_ok_iff.mpr hspells⟩
  rw [step_of_opening (hslash.closing?_slash start), step_of_opening hopens.1, bind_assoc]
  simp only [step_of_closing? hclosing]
  cases hplace : b.place shapes r false with
  | error e => exact .error rfl
  | ok b₁ =>
    show Agree Similar (b₁.openTag dialect _) (do
      let b ← b₁.openTag dialect _
      b.closeTag dialect shapes r' t.span opening.name)
    rw [openTag_closeTag (h.place hplace) hopens hr',
      openTag_of_read (OpeningTag.read_eq_ok_iff.mpr hspells')]
    exact attach_agree (.refl b₁) rfl

theorem step_slash_fails (hslash : OpeningTag.TakesSlash content)
    (hread : ∀ span result, OpeningTag.read span content ≠ .ok result) (r : Run)
    (start start' : Nat) :
    Agree (fun _ _ => False) (b.step dialect shapes (r, ⟨start, content ++ [.char '/']⟩))
      (b.step dialect shapes (r, ⟨start', content⟩)) := by
  rw [step_of_opening (hslash.closing?_slash start),
    step_of_opening (hslash.closing?_eq_none start')]
  cases b.place shapes r false with
  | error e => exact .error rfl
  | ok b₁ => exact (hslash.read_slash_fails hread _ _).bind fun _ _ h => h.elim

end Builder

/-! ## Whole markup -/

namespace Outline

open Markup

section

variable [Alphabet]

/-- Markup in which a slash is written, and markup in which the closing tag is. -/
theorem ofMarkup_slash {before content : Markup} {run : Run}
    (hrun : (Cutting.ofMarkup 0 before).ending = .run run)
    (hslash : OpeningTag.TakesSlash content) {opening : OpeningTag} {closed : Bool}
    (hspells : OpeningTag.Spells content opening closed) (behind : Markup) :
    ofMarkup dialect shapes (before ++ (tag (content ++ [.char '/']) ++ behind))
      = ofMarkup dialect shapes
        (before ++ (tag content ++ (tag (.char '/' :: ofText opening.name) ++ behind))) := by
  have htext := Cutting.ne_bracket_of_ending hrun
  have hname := isAttributeName_of_isTagName hspells.isTagName
  have hclosing : ∀ x ∈ Symbol.char '/' :: ofText opening.name,
      x ≠ .char '<' ∧ x ≠ .char '>' := by
    refine List.forall_mem_cons.mpr ⟨by decide, forall_mem_ofText.mpr fun c hc => ?_⟩
    simpa using no_bracket_of_mem_name hname hc
  refine ofMarkup_append_congr hrun fun l b length length' _ hreads => ?_
  rw [Builder.readOn_tag b htext hslash.no_bracket_slash,
    Builder.readOn_tag b htext hslash.no_bracket]
  simp only [Builder.readOn_tag_nil _ hclosing]
  rw [← bind_assoc]
  refine Agree.bind (Builder.step_slash_agree hreads hslash hspells rfl
    (Tag.closing?_of_name hname rfl) _ _) fun b b' hb => ?_
  exact Builder.readOn_agree hb (Cutting.similar_ofMarkup _ _ behind) _ _

/-- Markup that fails at a tag that cannot be read, if not before. -/
theorem ofMarkup_slash_fails {before content : Markup} {run : Run}
    (hrun : (Cutting.ofMarkup 0 before).ending = .run run)
    (hslash : OpeningTag.TakesSlash content)
    (hread : ∀ span result, OpeningTag.read span content ≠ .ok result) (behind behind' : Markup) :
    ∃ cause,
      ofMarkup dialect shapes (before ++ (tag (content ++ [.char '/']) ++ behind))
        = .error cause ∧
      ofMarkup dialect shapes (before ++ (tag content ++ behind')) = .error cause := by
  have htext := Cutting.ne_bracket_of_ending hrun
  have hfails : Agree (fun _ _ => False)
      (Tree.ofMarkup dialect shapes (before ++ (tag (content ++ [.char '/']) ++ behind)))
      (Tree.ofMarkup dialect shapes (before ++ (tag content ++ behind'))) := by
    refine Tree.ofMarkup_append_agree hrun fun l b length length' _ _ => ?_
    rw [Builder.readOn_tag b htext hslash.no_bracket_slash,
      Builder.readOn_tag b htext hslash.no_bracket]
    exact (Builder.step_slash_fails hslash hread _ _ _).bind fun _ _ h => h.elim
  obtain ⟨_, _, -, -, h⟩ | ⟨e, e', he, he', hcause⟩ := hfails.ok_or_error
  · exact h.elim
  · refine ⟨e.cause, ?_, ?_⟩
    · rw [ofMarkup, he]
      rfl
    · rw [ofMarkup, he', hcause]
      rfl

/-- **A slash is short for a closing tag.** Let some markup end outside of every tag, and behind it
stand a tag that takes a slash. If the tag can be read then what is read does not change if the
closing tag of its name is written instead of the slash. If it cannot then nothing is read with the
slash or without, for the same cause, whatever is closed behind it. -/
theorem ofMarkup_selfClosing {before content : Markup} {run : Run}
    (hrun : (Cutting.ofMarkup 0 before).ending = .run run)
    (hslash : OpeningTag.TakesSlash content) (behind : Markup) :
    (∀ span opening closed, OpeningTag.read span content = .ok (opening, closed) →
      ofMarkup dialect shapes (before ++ (tag (content ++ [.char '/']) ++ behind))
        = ofMarkup dialect shapes
          (before ++ (tag content ++ (tag (.char '/' :: ofText opening.name) ++ behind)))) ∧
    ((∀ span result, OpeningTag.read span content ≠ .ok result) →
      ∀ name : Markup, ∃ cause,
        ofMarkup dialect shapes (before ++ (tag (content ++ [.char '/']) ++ behind))
          = .error cause ∧
        ofMarkup dialect shapes (before ++ (tag content ++ (tag (.char '/' :: name) ++ behind)))
          = .error cause) :=
  ⟨fun _ _ _ hread => ofMarkup_slash hrun hslash (OpeningTag.read_eq_ok_iff.mp hread) behind,
    fun hread _ => ofMarkup_slash_fails hrun hslash hread behind _⟩

end

/-- An item of a list with an attribute, and a tag that cannot be read. -/
theorem ofMarkup_selfClosing_item :
    let before : Markup := ofText (txt "<ul>\n")
    let content : Markup :=
      ofText (txt "li class=\"") ++ [.slot ⟨1, by decide, by decide⟩, .char '"']
    let behind : Markup := ofText (txt "</ul>")
    let opening : OpeningTag :=
      ⟨txt "li", .ofList [(txt "class", [.read ⟨1, by decide, by decide⟩])], none⟩
    (Cutting.ofMarkup 0 before).ending = .run ⟨4, ofText (txt "\n")⟩ ∧
      OpeningTag.TakesSlash content ∧
      OpeningTag.read ⟨0, 0⟩ content = .ok (opening, false) ∧
      ofMarkup .standard [.scalar] (before ++ (tag (content ++ [.char '/']) ++ behind))
        = ofMarkup .standard [.scalar]
          (before ++ (tag content ++ (tag (.char '/' :: ofText opening.name) ++ behind))) ∧
      (ofMarkup .standard [.scalar]
        (before ++ (tag (content ++ [.char '/']) ++ behind))).isOk = true ∧
      ∃ cause,
        ofMarkup .standard [] (before ++ (tag (ofText (txt "9") ++ [.char '/']) ++ behind))
          = .error cause ∧
        ofMarkup .standard [] (before ++ (tag (ofText (txt "9")) ++
          (tag (.char '/' :: ofText (txt "li")) ++ behind))) = .error cause := by
  intro before content behind opening
  have hrun : (Cutting.ofMarkup 0 before).ending = .run ⟨4, ofText (txt "\n")⟩ := by
    decide +kernel
  have hslash : OpeningTag.TakesSlash content :=
    ⟨List.cons_ne_nil _ _, by decide +kernel, by decide +kernel, by decide +kernel,
      .inr ⟨'"', rfl, rfl⟩⟩
  have hread : OpeningTag.read ⟨0, 0⟩ content = .ok (opening, false) := by decide +kernel
  have hslash' : OpeningTag.TakesSlash (ofText (txt "9")) :=
    ⟨List.cons_ne_nil _ _, by decide +kernel, by decide +kernel, by decide +kernel, .inl rfl⟩
  have hdigit : ∀ span result, OpeningTag.read span (ofText (txt "9")) ≠ .ok result := by
    intro span result h
    have hinvalid : OpeningTag.read span (ofText (txt "9")) = .error ⟨.invalidTag, span⟩ := rfl
    cases hinvalid.symm.trans h
  exact ⟨hrun, hslash, hread, (ofMarkup_selfClosing hrun hslash behind).1 _ _ _ hread,
    by decide +kernel, (ofMarkup_selfClosing hrun hslash' behind).2 hdigit _⟩

end Outline

end MarkupTemplate
