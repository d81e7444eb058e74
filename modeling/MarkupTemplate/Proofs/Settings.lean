import MarkupTemplate.Libraries
import MarkupTemplate.Proofs.MarkedTags
import MarkupTemplate.Proofs.Overwriting
import MarkupTemplate.Proofs.Writing

/-!
# Reading a tag as it was written

    name, settings ──Written──▶ content
                                   │
                               text, sites
                                   ▼
              before the tag … content … behind it ──ofMarked──▶ tag

There are many ways to write the same attributes. White space between them may be of any kind and
length, an attribute without a value needs no equals sign, and of a value any part may be in quotes
if it stands at the end. `Written` is the relation between settings and all contents that set them
out; `ofMarked_of_written` says that reading undoes it. The reader gets a marked text in which the
content stands somewhere, and tokens and dollar signs may stand around it and in it. Whatever slots
the values have, the tag that is read has

- each attribute at the place where its name was written first,
- the value that was written for it last, with literal text as long as possible,
- and for a key the last value of the name `key` that reads a slot.
-/

namespace MarkupTemplate

/-! ## Canonical texts -/

namespace Interpolation

/-- Whether no piece could be left out, or joined with the next one. -/
structure IsCanonical (i : Interpolation) : Prop where
  apart : i.Apart
  nonempty : ∀ p ∈ i, p.isEmpty = false

theorem isEmpty_of_mem_cons {x : Symbol} {i : Interpolation} {p : Piece} (h : p ∈ cons x i) :
    p.isEmpty = false ∨ p ∈ i := by
  cases x with
  | slot s =>
    rcases List.mem_cons.mp h with rfl | h
    · exact .inl rfl
    · exact .inr h
  | char c =>
    cases i with
    | nil =>
      obtain rfl := List.mem_singleton.mp h
      exact .inl rfl
    | cons q i =>
      cases q with
      | literal t =>
        rcases List.mem_cons.mp h with rfl | h
        · exact .inl rfl
        · exact .inr (List.mem_cons_of_mem _ h)
      | read s =>
        rcases List.mem_cons.mp h with rfl | h
        · exact .inl rfl
        · exact .inr h

theorem isCanonical_ofMarkup (m : Markup) : (ofMarkup m).IsCanonical where
  apart := apart_ofMarkup m
  nonempty := by
    induction m with
    | nil => exact List.forall_mem_nil _
    | cons x m ih =>
      intro p hp
      exact (isEmpty_of_mem_cons hp).elim id (ih p)

end Interpolation

namespace OpeningTag

open Markup

/-! ## Ways of writing settings -/

section

variable [Alphabet]

/-- A content that sets values out, one after the other. It may follow right upon a quote that was
closed, if `closed` says that there is one; otherwise white space comes first. -/
inductive Written : Bool → List (Text × Markup) → Markup → Prop
  | nil {closed : Bool} : Written closed [] []
  /-- A name alone sets the empty value. -/
  | name {closed : Bool} {gap name : Text} {settings : List (Text × Markup)} {rest : Markup} :
      (∀ c ∈ gap, isBlank c = true) → (gap = [] → closed = true) → isAttributeName name = true →
      Written false settings rest →
      Written closed ((name, []) :: settings) (ofText gap ++ (ofText name ++ rest))
  | bare {closed : Bool} {gap name : Text} {value : Markup} {settings : List (Text × Markup)}
      {rest : Markup} :
      (∀ c ∈ gap, isBlank c = true) → (gap = [] → closed = true) → isAttributeName name = true →
      (∀ x ∈ value, Word.isBare x = true) → Written false settings rest →
      Written closed ((name, value) :: settings)
        (ofText gap ++ (ofText name ++ .char '=' :: value ++ rest))
  /-- The end of a value may be in quotes. -/
  | quoted {closed : Bool} {gap name : Text} {value quoted : Markup} {quote : Char}
      {settings : List (Text × Markup)} {rest : Markup} :
      (∀ c ∈ gap, isBlank c = true) → (gap = [] → closed = true) → isAttributeName name = true →
      (∀ x ∈ value, Word.isBare x = true) → Word.isQuote quote = true →
      (∀ x ∈ quoted, x ≠ .char quote) → Written true settings rest →
      Written closed ((name, value ++ quoted) :: settings)
        (ofText gap ++ (ofText name ++ .char '=' :: value ++
          .char quote :: (quoted ++ .char quote :: rest)))

/-! ## Words -/

theorem one_ofText_append {name : Text} (hname : isAttributeName name = true) (m : Markup) :
    Word.one (ofText name ++ m) = [ofText name ++ m] := by
  apply Word.one_ne_nil
  intro hnil
  obtain ⟨hname', -⟩ := List.append_eq_nil_iff.mp hnil
  exact ne_nil_of_isAttributeName hname (List.map_eq_nil_iff.mp hname')

/-- A name with an equals sign and a bare value ends no word. -/
theorem isBare_of_setting {name : Text} (hname : isAttributeName name = true) {value : Markup}
    (hvalue : ∀ x ∈ value, Word.isBare x = true) :
    ∀ x ∈ ofText name ++ .char '=' :: value, Word.isBare x = true := by
  refine List.forall_mem_append.mpr ⟨Rendered.isBare_of_name hname, ?_⟩
  exact List.forall_mem_cons.mpr ⟨by decide, hvalue⟩

/-- **What is written is split into words that say the settings**, also behind part of a word,
unless a quote has ended the word. -/
theorem Written.exists_splits {closed : Bool} {settings : List (Text × Markup)} {content : Markup}
    (h : Written closed settings content) {before : Markup}
    (hbefore : ∀ x ∈ before, Word.isBare x = true) (hclosed : closed = true → before = []) :
    ∃ words, Word.Splits (before ++ content) (Word.one before ++ words) ∧
      List.Forall₂ Says words settings := by
  induction h generalizing before with
  | nil =>
    refine ⟨[], ?_, .nil⟩
    rw [List.append_nil, List.append_nil]
    exact .last hbefore
  | @name closed gap name settings rest hgap hempty hname _ ih =>
    obtain ⟨words, hwords, hsays⟩ := ih (Rendered.isBare_of_name hname) (by simp)
    refine ⟨ofText name :: words, ?_, .cons (.bare hname) hsays⟩
    have hone := one_ofText_append hname []
    rw [List.append_nil] at hone
    rw [hone] at hwords
    exact Word.splits_behind hbefore hgap (hclosed ∘ hempty) hwords
  | @bare closed gap name value settings rest hgap hempty hname hvalue _ ih =>
    obtain ⟨words, hwords, hsays⟩ := ih (isBare_of_setting hname hvalue) (by simp)
    refine ⟨(ofText name ++ .char '=' :: value) :: words, ?_, .cons (.valued hname) hsays⟩
    rw [one_ofText_append hname] at hwords
    exact Word.splits_behind hbefore hgap (hclosed ∘ hempty) hwords
  | @quoted closed gap name value quoted quote settings rest hgap hempty hname hvalue hquote
      hquoted _ ih =>
    -- The closing quote ends the word, so that the next one may begin at once.
    obtain ⟨words, hwords, hsays⟩ := ih (List.forall_mem_nil _) (fun _ => rfl)
    refine ⟨(ofText name ++ .char '=' :: (value ++ quoted)) :: words, ?_,
      .cons (.valued hname) hsays⟩
    have hword := Word.Splits.quoted (isBare_of_setting hname hvalue) hquote hquoted hwords
    have hvalued : ofText name ++ .char '=' :: value ++ quoted
        = ofText name ++ .char '=' :: (value ++ quoted) := by simp
    rw [hvalued, one_ofText_append hname] at hword
    exact Word.splits_behind hbefore hgap (hclosed ∘ hempty) hword

end

/-! ## What settings amount to -/

/-- The value that is set for a target last. -/
def lastValue? (settings : List (Text × Markup)) (t : Target) : Option Markup :=
  ((settings.filter (target · = t)).getLast?).map Prod.snd

theorem lastValue?_concat (settings : List (Text × Markup)) (setting : Text × Markup) (t : Target) :
    lastValue? (settings ++ [setting]) t =
      if target setting = t then some setting.2 else lastValue? settings t := by
  rw [lastValue?, List.filter_append]
  split
  · next h => simp [h]
  · next h => simp [h, lastValue?]

/-- What stands at the end of a list is new, or a duplicate. -/
theorem eraseDups_concat (names : List Text) (name : Text) :
    (names ++ [name]).eraseDups
      = if name ∈ names then names.eraseDups else names.eraseDups ++ [name] := by
  rw [List.eraseDups_append, List.removeAll]
  split
  · next h => simp [h]
  · next h => simp [h, List.eraseDups_cons]

/-- The names of attributes that are set, in the order of their first places. -/
def attributeNames (settings : List (Text × Markup)) : List Text :=
  ((settings.filter (target · ≠ .key)).map Prod.fst).eraseDups

theorem attributeNames_concat_of_key {setting : Text × Markup} (h : target setting = .key)
    (settings : List (Text × Markup)) :
    attributeNames (settings ++ [setting]) = attributeNames settings := by
  simp [attributeNames, h]

theorem attributeNames_concat {setting : Text × Markup} (h : target setting ≠ .key)
    (settings : List (Text × Markup)) :
    attributeNames (settings ++ [setting]) =
      if setting.1 ∈ attributeNames settings then attributeNames settings
      else attributeNames settings ++ [setting.1] := by
  have hfilter : (settings ++ [setting]).filter (target · ≠ .key)
      = settings.filter (target · ≠ .key) ++ [setting] := by simp [h]
  rw [attributeNames, hfilter, List.map_append, List.map_singleton, eraseDups_concat]
  by_cases hmem : setting.1 ∈ (settings.filter (target · ≠ .key)).map Prod.fst
  · have hnames : setting.1 ∈ attributeNames settings := List.mem_eraseDups.mpr hmem
    rw [if_pos hmem, if_pos hnames, attributeNames]
  · have hnames : setting.1 ∉ attributeNames settings := mt List.mem_eraseDups.mp hmem
    rw [if_neg hmem, if_neg hnames, attributeNames]

/-! ## What a tag makes of settings -/

theorem ofSettings_concat (name : Text) (settings : List (Text × Markup))
    (setting : Text × Markup) :
    ofSettings name (settings ++ [setting]) = (ofSettings name settings).withSetting setting := by
  rw [ofSettings, List.foldl_append]
  rfl

theorem isStatic_eq_false_iff (setting : Text × Markup) :
    (Interpolation.ofMarkup setting.2).isStatic = false ↔ setting.2.slots ≠ [] := by
  rw [Interpolation.isStatic, Interpolation.reads_ofMarkup, List.isEmpty_eq_false_iff]

theorem withSetting_of_target_eq_key (tag : OpeningTag) {setting : Text × Markup}
    (h : target setting = .key) :
    tag.withSetting setting = { tag with key := some (.ofMarkup setting.2) } := by
  rw [target] at h
  split at h
  · next hkey => exact if_pos ⟨hkey.1, (isStatic_eq_false_iff setting).mpr hkey.2⟩
  · cases h

theorem withSetting_of_target_ne_key (tag : OpeningTag) {setting : Text × Markup}
    (h : target setting ≠ .key) :
    target setting = .attribute setting.1 ∧ tag.withSetting setting =
      { tag with attributes := tag.attributes.insert setting.1 (.ofMarkup setting.2) } := by
  rw [target] at h ⊢
  split at h
  · exact absurd rfl h
  · next hkey =>
    refine ⟨if_neg hkey, if_neg ?_⟩
    rintro ⟨hname, hstatic⟩
    exact hkey ⟨hname, (isStatic_eq_false_iff setting).mp hstatic⟩

/-- What a tag has to be for settings that were written in it. -/
structure SetsOut (tag : OpeningTag) (settings : List (Text × Markup)) : Prop where
  /-- Every attribute stands where its name was written first. -/
  names : tag.attributes.names = attributeNames settings
  /-- It has the value that was written for it last. -/
  attributes : ∀ name, (tag.attributes.lookup? name).map Interpolation.symbols
    = lastValue? settings (.attribute name)
  /-- Values of the name `key` that read a slot are no attributes, and the last one is the key. -/
  key : tag.key.map Interpolation.symbols = lastValue? settings .key
  canonical : ∀ e ∈ tag.values, e.2.IsCanonical

theorem setsOut_ofSettings (name : Text) (settings : List (Text × Markup)) :
    (ofSettings name settings).SetsOut settings := by
  have hcanonical : ∀ e ∈ (ofSettings name settings).values, e.2.IsCanonical := by
    intro e he
    obtain ⟨setting, -, rfl⟩ := mem_values_ofSettings he
    exact Interpolation.isCanonical_ofMarkup setting.2
  refine ⟨?_, ?_, ?_, hcanonical⟩
  all_goals clear hcanonical
  -- The last setting decides about its own target, and leaves the others as they were.
  · induction settings using List.reverseRecOn with
    | nil => rfl
    | append_singleton settings setting ih =>
      rw [ofSettings_concat]
      by_cases hkey : target setting = .key
      · rw [withSetting_of_target_eq_key _ hkey, attributeNames_concat_of_key hkey]
        exact ih
      · rw [(withSetting_of_target_ne_key _ hkey).2, attributeNames_concat hkey, ← ih]
        exact Attributes.names_insert _ _ _
  · intro n
    induction settings using List.reverseRecOn with
    | nil => rfl
    | append_singleton settings setting ih =>
      rw [ofSettings_concat, lastValue?_concat]
      by_cases hkey : target setting = .key
      · rw [withSetting_of_target_eq_key _ hkey, hkey, if_neg (by simp)]
        exact ih
      · obtain ⟨htarget, htag⟩ := withSetting_of_target_ne_key (ofSettings name settings) hkey
        rw [htag, htarget, ← ih, Attributes.lookup?_insert]
        by_cases hname : n = setting.1
        · rw [if_pos hname, if_pos (congrArg Target.attribute hname.symm)]
          exact congrArg some (Interpolation.symbols_ofMarkup setting.2)
        · rw [if_neg hname, if_neg (by simpa using Ne.symm hname)]
  · induction settings using List.reverseRecOn with
    | nil => rfl
    | append_singleton settings setting ih =>
      rw [ofSettings_concat, lastValue?_concat]
      by_cases hkey : target setting = .key
      · rw [withSetting_of_target_eq_key _ hkey, if_pos hkey]
        exact congrArg some (Interpolation.symbols_ofMarkup setting.2)
      · rw [(withSetting_of_target_ne_key _ hkey).2, if_neg hkey]
        exact ih

theorem ofContent_of_written [Alphabet] {name : Text} {settings : List (Text × Markup)}
    {content : Markup} (hname : isTagName name = true) (h : Written false settings content)
    (start : Nat) :
    ∃ tag, ofContent start (ofText name ++ content) = .ok tag ∧ tag.name = name ∧
      tag.SetsOut settings := by
  have hattribute := isAttributeName_of_isTagName hname
  obtain ⟨symbols, hsplits, hsays⟩ := h.exists_splits (Rendered.isBare_of_name hattribute) (by simp)
  have hone := one_ofText_append hattribute []
  rw [List.append_nil] at hone
  rw [hone, List.singleton_append] at hsplits
  obtain ⟨words, hwords, hsymbols⟩ := Word.split_of_splits hsplits start
  refine ⟨ofSettings name settings, ?_, name_ofSettings name settings,
    setsOut_ofSettings name settings⟩
  rw [ofContent, hwords]
  apply ofWords_eq_ok_iff.mpr
  rw [hsymbols]
  exact .mk hname hsays

/-- **Reading a tag undoes writing it.** Whichever way the name of a tag and its attributes are
written, and wherever that stands in a marked text, the tag that is read has this name and sets out
these attributes. -/
theorem ofMarked_of_written [Alphabet] {name : Text} {settings : List (Text × Markup)}
    {content : Markup} (hname : isTagName name = true) (h : Written false settings content)
    (front back : Markup) :
    ∃ tag,
      ofMarked (front ++ (ofText name ++ content ++ back)).sites front.byteLength
        (text (ofText name ++ content)) = .ok tag ∧
      tag.name = name ∧ tag.SetsOut settings := by
  rw [ofMarked_sites]
  exact ofContent_of_written hname h front.byteLength

/-- A name that is repeated, two keys, a quote that begins within a value, and names behind one.
Before the tag stand a token and text that looks like one, and another token is behind it. -/
theorem ofMarked_of_written_repeated :
    isTagName (txt "li") = true ∧
      Written false
        [(txt "key", interleave 1 [[], []]), (txt "title", ofText (txt "Ö>$1")), (txt "hidden", []),
          (txt "key", interleave 2 [txt "k-", []]),
          (txt "title", interleave 3 [[], txt " = \"", []])]
        (interleave 1 [txt " \tkey=", txt "\ntitle='Ö>$1'hidden key=k-\"", txt "\"title=",
          txt "' = \"", txt "'"]) ∧
      ∃ tag,
        ofMarked
          (interleave 0 [txt "<ul>ü$2", txt "<"] ++
            (ofText (txt "li") ++ interleave 1 [txt " \tkey=", txt "\ntitle='Ö>$1'hidden key=k-\"",
              txt "\"title=", txt "' = \"", txt "'"] ++
            interleave 5 [txt ">", txt "</li></ul>"])).sites
          11
          (txt "li \tkey=$2\ntitle='Ö>$1'hidden key=k-\"$3\"title=$4' = \"$5'") = .ok tag ∧
        tag.name = txt "li" ∧ tag.attributes.names = [txt "title", txt "hidden"] := by
  have hli : isTagName (txt "li") = true := by decide
  -- The settings, from the last one to the first.
  have htitle : Written true [(txt "title", interleave 3 [[], txt " = \"", []])]
      (interleave 3 [txt "title=", txt "' = \"", txt "'"]) :=
    @Written.quoted _ true [] (txt "title") (interleave 3 [[], []]) (interleave 4 [txt " = \"", []])
      '\'' [] [] (List.forall_mem_nil _) (by decide) (by decide) (by decide) (by decide) (by decide)
      .nil
  have hkey := @Written.quoted _ false (txt " ") (txt "key") (ofText (txt "k-"))
      (interleave 2 [[], []]) '"' _ _ (List.all_eq_true.mp (by decide)) (by decide) (by decide)
      (by decide) (by decide) (by decide) htitle
  have hhidden := @Written.name _ true [] (txt "hidden") _ _ (List.forall_mem_nil _) (by decide)
      (by decide) hkey
  have hfirst := @Written.quoted _ false (txt "\n") (txt "title") [] (ofText (txt "Ö>$1")) '\'' _ _
      (List.all_eq_true.mp (by decide)) (by decide) (by decide) (by decide) (by decide) (by decide)
      hhidden
  have h := @Written.bare _ false (txt " \t") (txt "key") (interleave 1 [[], []]) _ _
      (List.all_eq_true.mp (by decide)) (by decide) (by decide) (by decide) hfirst
  refine ⟨hli, h, ?_⟩
  obtain ⟨tag, htag, hname, hsets⟩ := ofMarked_of_written hli h
    (interleave 0 [txt "<ul>ü$2", txt "<"]) (interleave 5 [txt ">", txt "</li></ul>"])
  exact ⟨tag, htag, hname, hsets.names⟩

end OpeningTag

end MarkupTemplate
