import MarkupTemplate.Libraries
import MarkupTemplate.Proofs.NormalForm

/-!
# Tags without white space

    content ──trim──▶ ──slash──▶ inner ──no white space──▶ a name, or nothing
                                   └─────otherwise────────▶ words ──▶ name, attributes, key

The reader of tags takes a content without white space for a tag name as it stands, and cuts only
other contents into words. `read_iff_ofContent` compares the two ways. They agree on names and on
whatever is no name, slots included, and so a name is as good alone as before an attribute. They
differ on quotes: among other words a name may be written in them, but not if the tag is nothing but
the name (`read_quoted_name`).
-/

namespace MarkupTemplate

namespace OpeningTag

open Markup

variable {content inner : Markup} {closed : Bool}

/-! ## Contents without quotes -/

/-- Whether there are no quotes. -/
def Unquoted (m : Markup) : Prop := ∀ quote, Word.isQuote quote = true → Symbol.char quote ∉ m

theorem Unquoted.isBare (hquote : Unquoted inner) (hblank : inner.any isBlankSymbol = false) :
    ∀ x ∈ inner, Word.isBare x = true := by
  intro x hx
  cases x with
  | slot s => rfl
  | char c =>
    have hblank : isBlank c = false := by
      simpa [isBlankSymbol] using List.any_eq_false.mp hblank (.char c) hx
    have hc : Word.isQuote c = false := by
      rw [← Bool.not_eq_true]
      intro h
      exact hquote c h hx
    simp [Word.isBare, hblank, hc]

section

variable [Alphabet]

theorem unquoted_of_name {name : Text} (h : isTagName name = true) : Unquoted (ofText name) := by
  intro quote hquote hmem
  have := isQuote_of_mem_name (isAttributeName_of_isTagName h) (char_mem_ofText.mp hmem)
  rw [hquote] at this
  cases this

/-! ## One word, and a word with an attribute behind it -/

theorem reads_one_iff {word : Markup} {tag : OpeningTag} :
    Reads (Word.one word) tag ↔
      ∃ name, isTagName name = true ∧ word = ofText name ∧ tag = bare name := by
  rw [Word.one]
  split
  · next hnil =>
    constructor
    · intro h
      cases h
    · rintro ⟨name, hname, hword, -⟩
      rw [hnil] at hword
      rw [List.map_eq_nil_iff.mp hword.symm] at hname
      cases hname
  · constructor
    · intro h
      cases h with
      | mk hname hsays =>
        cases hsays
        exact ⟨_, hname, rfl, rfl⟩
    · rintro ⟨name, hname, rfl, rfl⟩
      exact .mk hname .nil

/-- A content of one word is read as a name. -/
theorem ofContent_of_isBare_iff (hbare : ∀ x ∈ inner, Word.isBare x = true) {start : Nat}
    {tag : OpeningTag} : ofContent start inner = .ok tag ↔
      ∃ name, isTagName name = true ∧ inner = ofText name ∧ tag = bare name := by
  have hwords : ofContent start inner
      = ofWords start (Word.ofSymbols inner start (start + inner.byteLength)) := by
    rw [ofContent, Word.split_last hbare]
    rfl
  rw [hwords, ofWords_eq_ok_iff, Word.map_symbols_ofSymbols, reads_one_iff]

/-- An attribute without a value is read with any name. -/
theorem exists_ofContent_attribute_iff (hbare : ∀ x ∈ inner, Word.isBare x = true)
    (hne : inner ≠ []) {gap : Text} (hgap : ∀ c ∈ gap, isBlank c = true) (hgap' : gap ≠ [])
    {label : Text} (hlabel : isAttributeName label = true) (start : Nat) :
    (∃ tag, ofContent start (inner ++ (ofText gap ++ ofText label)) = .ok tag) ↔
      ∃ name, isTagName name = true ∧ inner = ofText name := by
  have hbare' : ∀ x ∈ ofText label, Word.isBare x = true := by
    refine forall_mem_ofText.mpr fun d hd => ?_
    simp [Word.isBare, isBlank_of_mem_name hlabel hd, isQuote_of_mem_name hlabel hd]
  have hne' : ofText label ≠ [] := fun hnil =>
    ne_nil_of_isAttributeName hlabel (List.map_eq_nil_iff.mp hnil)
  have hone : Word.one inner ++ Word.one (ofText label) = [inner, ofText label] := by
    rw [Word.one, Word.one, if_neg hne, if_neg hne']
    rfl
  have hsplits := Word.splits_behind hbare hgap (fun hnil => absurd hnil hgap') (.last hbare')
  rw [hone] at hsplits
  obtain ⟨words, hwords, hsymbols⟩ := Word.split_of_splits hsplits start
  have hcontent : ofContent start (inner ++ (ofText gap ++ ofText label))
      = ofWords start words := by
    rw [ofContent, hwords]
    rfl
  simp only [hcontent, ofWords_eq_ok_iff, hsymbols]
  constructor
  · rintro ⟨tag, h⟩
    cases h with
    | mk hname _ => exact ⟨_, hname, rfl⟩
  · rintro ⟨name, hname, rfl⟩
    exact ⟨_, .mk hname (.cons (.bare hlabel) .nil)⟩

/-! ## The two ways -/

/-- A content without white space is a name, or it is no tag. -/
theorem read_of_no_blank_iff (hinner : splitSlash content.trimmed = (inner, closed))
    (hblank : inner.any isBlankSymbol = false) {span : Span} {r : OpeningTag × Bool} :
    read span content = .ok r ↔ r.2 = closed ∧
      ∃ name, isTagName name = true ∧ inner = ofText name ∧ r.1 = bare name := by
  obtain ⟨tag, closed'⟩ := r
  rw [read_eq_ok_iff]
  constructor
  · intro h
    cases h with
    | bare hname hsplit =>
      obtain ⟨rfl, rfl⟩ := Prod.mk.inj (hinner.symm.trans hsplit)
      exact ⟨rfl, _, hname, rfl, rfl⟩
    | words hblank' _ _ hsplit =>
      obtain ⟨rfl, rfl⟩ := Prod.mk.inj (hinner.symm.trans hsplit)
      rw [hblank] at hblank'
      cases hblank'
  · rintro ⟨rfl, name, hname, rfl, rfl⟩
    exact .bare hname hinner

/-- A content with white space is read word by word. -/
theorem read_of_blank_iff (hinner : splitSlash content.trimmed = (inner, closed))
    (hblank : inner.any isBlankSymbol = true) {span : Span} {r : OpeningTag × Bool} (start : Nat) :
    read span content = .ok r ↔ r.2 = closed ∧ ofContent start inner = .ok r.1 := by
  obtain ⟨tag, closed'⟩ := r
  rw [read_eq_ok_iff, ofContent]
  constructor
  · intro h
    cases h with
    | bare hname hsplit =>
      obtain ⟨rfl, rfl⟩ := Prod.mk.inj (hinner.symm.trans hsplit)
      rw [any_isBlankSymbol_of_name hname] at hblank
      cases hblank
    | words _ hwords hreads hsplit =>
      obtain ⟨rfl, rfl⟩ := Prod.mk.inj (hinner.symm.trans hsplit)
      obtain ⟨words, hsplit, rfl⟩ := Word.split_of_splits hwords start
      exact ⟨rfl, bind_eq_ok.mpr ⟨words, hsplit, ofWords_eq_ok_iff.mpr hreads⟩⟩
  · rintro ⟨rfl, h⟩
    obtain ⟨words, hwords, hreads⟩ := bind_eq_ok.mp h
    exact .words hblank (Word.splits_of_split hwords) (ofWords_eq_ok_iff.mp hreads) hinner

end

/-- What is left without the slash does not begin with white space. -/
theorem isBlankSymbol_head (hinner : splitSlash content.trimmed = (inner, closed)) :
    ∀ x ∈ inner.head?, isBlankSymbol x = false := by
  have hprefix := isPrefix_splitSlash content.trimmed
  rw [hinner] at hprefix
  obtain ⟨rest, hrest⟩ := hprefix
  intro x hx
  have hhead := head?_trimmed content x
  cases inner with
  | nil => cases hx
  | cons y inner =>
    rw [← hrest] at hhead
    exact hhead hx

/-- **A tag without white space is read as its only word is, unless that has quotes.** What is left
of a content without the white space around it and without the slash may have no white space. Then
the reader accepts it if and only if it has no quotes and cutting it into words gives a tag, and
that is the tag which is read. A name without quotes is accepted alone if and only if it is accepted
with any white space and an attribute without a value behind it, wherever the tags stand and whether
or not they close themselves. -/
theorem read_iff_ofContent [Alphabet] (hinner : splitSlash content.trimmed = (inner, closed))
    (hblank : inner.any isBlankSymbol = false) :
    (∀ span start r, read span content = .ok r ↔
      r.2 = closed ∧ Unquoted inner ∧ ofContent start inner = .ok r.1) ∧
    ∀ content' closed' gap label, gap ≠ [] → (∀ c ∈ gap, isBlank c = true) →
      isAttributeName label = true →
      splitSlash (trimmed content') = (inner ++ (ofText gap ++ ofText label), closed') →
      Unquoted inner → ∀ span span',
        (∃ r, read span' content' = .ok r) ↔ ∃ r, read span content = .ok r := by
  constructor
  · intro span start r
    rw [read_of_no_blank_iff hinner hblank]
    constructor
    · rintro ⟨hclosed, name, hname, rfl, hr⟩
      have hquote := unquoted_of_name hname
      exact ⟨hclosed, hquote, (ofContent_of_isBare_iff (hquote.isBare hblank)).mpr
        ⟨name, hname, rfl, hr⟩⟩
    · rintro ⟨hclosed, hquote, hr⟩
      exact ⟨hclosed, (ofContent_of_isBare_iff (hquote.isBare hblank)).mp hr⟩
  · intro content' closed' gap label hgap' hgap hlabel hinner' hquote span span'
    obtain ⟨c, gap, rfl⟩ := List.exists_cons_of_ne_nil hgap'
    obtain ⟨hc, -⟩ := List.forall_mem_cons.mp hgap
    have hne : inner ≠ [] := by
      rintro rfl
      have := isBlankSymbol_head hinner' _ rfl
      have : isBlank c = false := this
      rw [hc] at this
      cases this
    have hblank' : (inner ++ (ofText (c :: gap) ++ ofText label)).any isBlankSymbol = true := by
      simp [isBlankSymbol, hc]
    have hlabelled := exists_ofContent_attribute_iff (hquote.isBare hblank) hne hgap hgap' hlabel 0
    constructor
    · rintro ⟨r, hr⟩
      obtain ⟨-, hr⟩ := (read_of_blank_iff hinner' hblank' 0).mp hr
      obtain ⟨name, hname, hinner_eq⟩ := hlabelled.mp ⟨_, hr⟩
      exact ⟨(bare name, closed), (read_of_no_blank_iff hinner hblank).mpr
        ⟨rfl, name, hname, hinner_eq, rfl⟩⟩
    · rintro ⟨r, hr⟩
      obtain ⟨-, name, hname, hinner_eq, -⟩ := (read_of_no_blank_iff hinner hblank).mp hr
      obtain ⟨tag, htag⟩ := hlabelled.mpr ⟨name, hname, hinner_eq⟩
      exact ⟨(tag, closed'), (read_of_blank_iff hinner' hblank' 0).mpr ⟨rfl, htag⟩⟩

/-- A name in a tag that closes itself, and the same name with an attribute. -/
theorem read_iff_ofContent_hidden :
    splitSlash (trimmed (ofText (txt " div /"))) = (ofText (txt "div"), true) ∧
      (ofText (txt "div")).any isBlankSymbol = false ∧
      splitSlash (trimmed (ofText (txt "div\t hidden")))
        = (ofText (txt "div") ++ (ofText (txt "\t ") ++ ofText (txt "hidden")), false) ∧
      read ⟨0, 8⟩ (ofText (txt " div /")) = .ok (bare (txt "div"), true) ∧
      ∃ r, read ⟨0, 13⟩ (ofText (txt "div\t hidden")) = .ok r := by
  have hinner : splitSlash (trimmed (ofText (txt " div /"))) = (ofText (txt "div"), true) := by
    decide
  have hblank : (ofText (txt "div")).any isBlankSymbol = false := by decide
  have hinner' : splitSlash (trimmed (ofText (txt "div\t hidden")))
      = (ofText (txt "div") ++ (ofText (txt "\t ") ++ ofText (txt "hidden")), false) := by decide
  have hquote : Unquoted (ofText (txt "div")) := unquoted_of_name (by decide)
  have hcontent : ofContent 2 (ofText (txt "div")) = .ok (bare (txt "div")) := by decide +kernel
  obtain ⟨hread, hlabel⟩ := read_iff_ofContent hinner hblank
  have hdiv := (hread ⟨0, 8⟩ 2 (bare (txt "div"), true)).mpr ⟨rfl, hquote, hcontent⟩
  have hgap : ∀ c ∈ txt "\t ", isBlank c = true := List.all_eq_true.mp (by decide)
  exact ⟨hinner, hblank, hinner', hdiv, (hlabel _ _ _ _ (by decide) hgap (by decide) hinner' hquote
    ⟨0, 8⟩ ⟨0, 13⟩).mpr ⟨_, hdiv⟩⟩

/-- **A name in quotes is accepted with an attribute, and not alone.** -/
theorem read_quoted_name :
    let quoted := ofText (txt "\"div\"")
    splitSlash quoted.trimmed = (quoted, false) ∧ quoted.any isBlankSymbol = false ∧
      ofContent 1 quoted = .ok (bare (txt "div")) ∧
      read ⟨0, 7⟩ quoted = .error ⟨.invalidTag, ⟨0, 7⟩⟩ ∧
      (read ⟨0, 9⟩ (quoted ++ ofText (txt " a"))).isOk = true := by
  decide +kernel

end OpeningTag

end MarkupTemplate
