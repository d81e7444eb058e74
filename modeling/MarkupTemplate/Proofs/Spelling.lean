import Mathlib.Data.List.Forall2
import MarkupTemplate.Proofs.Names
import MarkupTemplate.Proofs.Words
import MarkupTemplate.Tag.Opening

/-!
# What the content of an opening tag spells

    content ──trim──▶ ──slash──▶ inner ──words──▶ name, attributes, key

The reader of tags knows at which offset every word stands, but only faults depend on that. `Spells`
says without offsets which tag a content stands for, and `read_eq_ok_iff` that this is the tag which
is read. The first word is the name of the tag, and every other word *says* an attribute, given by a
name and the markup of its value.
-/

namespace MarkupTemplate

namespace Markup

@[simp] theorem ofText_nil : ofText [] = [] := rfl

@[simp] theorem ofText_cons (c : Char) (t : Text) : ofText (c :: t) = .char c :: ofText t := rfl

@[simp] theorem ofText_append (s t : Text) : ofText (s ++ t) = ofText s ++ ofText t :=
  List.map_append

theorem mem_ofText {x : Symbol} {t : Text} : x ∈ ofText t ↔ ∃ c ∈ t, x = .char c := by
  simp [ofText, eq_comm]

@[simp] theorem char_mem_ofText {c : Char} {t : Text} : .char c ∈ ofText t ↔ c ∈ t := by
  simp [mem_ofText]

@[simp] theorem slot_notMem_ofText (s : Slot) (t : Text) : .slot s ∉ ofText t := by
  simp [mem_ofText]

theorem forall_mem_ofText {P : Symbol → Prop} {t : Text} :
    (∀ x ∈ ofText t, P x) ↔ ∀ c ∈ t, P (.char c) := List.forall_mem_map

/-- Markup has no slots if and only if it is a text. -/
theorem plain?_eq_some_iff {m : Markup} {t : Text} : plain? m = some t ↔ m = ofText t := by
  induction m generalizing t with
  | nil => cases t <;> simp [plain?]
  | cons x m ih =>
    cases x with
    | slot s => cases t <;> simp [plain?]
    | char c =>
      constructor
      · intro h
        obtain ⟨t, ht, rfl⟩ := Option.map_eq_some_iff.mp h
        rw [ih.mp ht, ofText_cons]
      · intro h
        cases t with
        | nil => cases h
        | cons d t =>
          obtain ⟨hc, ht⟩ := List.cons.inj h
          cases hc
          rw [plain?, ih.mpr ht, Option.map_some]

theorem filter_plain?_eq_some_iff {p : Text → Bool} {m : Markup} {t : Text} :
    (plain? m).filter p = some t ↔ m = ofText t ∧ p t = true := by
  rw [Option.filter_eq_some_iff, plain?_eq_some_iff]

/-- Markup without the white space around it. -/
def trimmed (m : Markup) : Markup :=
  dropWhileEnd OpeningTag.isBlankSymbol (m.dropWhile OpeningTag.isBlankSymbol)

end Markup

/-- What is on the right corresponds to something on the left. -/
theorem exists_of_forall₂ {α β : Type} {R : α → β → Prop} {l : List α} {l' : List β}
    (h : List.Forall₂ R l l') {b : β} (hb : b ∈ l') : ∃ a ∈ l, R a b := by
  induction h with
  | nil => cases hb
  | cons hab _ ih =>
    rcases List.mem_cons.mp hb with rfl | hb
    · exact ⟨_, List.mem_cons_self, hab⟩
    · obtain ⟨a, ha, hab⟩ := ih hb
      exact ⟨a, List.mem_cons_of_mem _ ha, hab⟩

namespace OpeningTag

open Markup

/-- The attribute that a word stands for: its name, and the markup of its value. -/
inductive Says [Alphabet] : Markup → Text × Markup → Prop
  /-- A word without an equals sign names an attribute without a value. -/
  | bare {name : Text} : isAttributeName name = true → Says (ofText name) (name, [])
  | valued {name : Text} {value : Markup} : isAttributeName name = true →
      Says (ofText name ++ .char '=' :: value) (name, value)

/-- The tag with an attribute, given by the markup of its value. -/
def withSetting (tag : OpeningTag) (setting : Text × Markup) : OpeningTag :=
  tag.withValue setting.1 (.ofMarkup setting.2)

/-- The tag of a name and attributes. -/
def ofSettings (name : Text) (settings : List (Text × Markup)) : OpeningTag :=
  settings.foldl withSetting (bare name)

section

variable [Alphabet]

/-- The tag that words stand for. -/
inductive Reads : List Markup → OpeningTag → Prop
  | mk {name : Text} {words : List Markup} {settings : List (Text × Markup)} :
      isTagName name = true → List.Forall₂ Says words settings →
      Reads (ofText name :: words) (ofSettings name settings)

theorem isChar_eq_false_of_name {name : Text} (h : isAttributeName name = true) :
    ∀ x ∈ ofText name, (!x.isChar '=') = true := by
  refine forall_mem_ofText.mpr fun c hc => ?_
  have hne : c ≠ '=' := by
    rintro rfl
    exact notMem_name h (by decide) hc
  simpa [Symbol.isChar] using hne

/-- What a word is split into at its first equals sign. -/
theorem says_iff {symbols : Markup} {name : Text} {value : Markup} :
    Says symbols (name, value) ↔ isAttributeName name = true ∧
      symbols.takeWhile (!·.isChar '=') = ofText name ∧
      (symbols.dropWhile (!·.isChar '=')).drop 1 = value := by
  have hequals : ∀ rest : Markup, ∀ x ∈ (Symbol.char '=' :: rest).head?,
      (!x.isChar '=') = false := by
    rintro rest x ⟨⟩
    rfl
  constructor
  · rintro (⟨hname⟩ | ⟨hname⟩)
    · have hall := isChar_eq_false_of_name hname
      rw [List.takeWhile_eq_self_iff.mpr hall, List.dropWhile_eq_nil_iff.mpr hall]
      exact ⟨hname, rfl, rfl⟩
    · have hall := isChar_eq_false_of_name hname
      rw [takeWhile_append_of_head? hall (hequals value),
        dropWhile_append_of_head? hall (hequals value)]
      exact ⟨hname, rfl, rfl⟩
  · rintro ⟨hname, htake, rfl⟩
    cases hdrop : symbols.dropWhile (!·.isChar '=') with
    | nil =>
      have hall := List.dropWhile_eq_nil_iff.mp hdrop
      rw [List.takeWhile_eq_self_iff.mpr hall] at htake
      subst htake
      exact .bare hname
    | cons x value =>
      obtain ⟨hsymbols, hx⟩ := eq_append_of_dropWhile hdrop
      obtain rfl : x = .char '=' := by simpa [Symbol.isChar] using hx
      rw [hsymbols, htake]
      exact .valued hname

theorem readWord_eq_ok_iff {tag tag' : OpeningTag} {word : Word} :
    tag.readWord word = .ok tag' ↔
      ∃ setting, Says word.symbols setting ∧ tag.withSetting setting = tag' := by
  rw [readWord]
  constructor
  · intro h
    split at h
    · next name hname =>
      obtain ⟨htake, hvalid⟩ := filter_plain?_eq_some_iff.mp hname
      cases h
      exact ⟨(name, _), says_iff.mpr ⟨hvalid, htake, rfl⟩, rfl⟩
    · cases h
  · rintro ⟨⟨name, value⟩, hsays, rfl⟩
    obtain ⟨hvalid, htake, rfl⟩ := says_iff.mp hsays
    simp only [filter_plain?_eq_some_iff.mpr ⟨htake, hvalid⟩]
    rfl

theorem foldlM_readWord_eq_ok_iff {tag tag' : OpeningTag} {words : List Word} :
    words.foldlM readWord tag = .ok tag' ↔
      ∃ settings, List.Forall₂ Says (words.map Word.symbols) settings ∧
        settings.foldl withSetting tag = tag' := by
  induction words generalizing tag with
  | nil =>
    constructor
    · intro h
      cases h
      exact ⟨[], .nil, rfl⟩
    · rintro ⟨settings, hsays, rfl⟩
      cases hsays
      rfl
  | cons word words ih =>
    rw [List.foldlM_cons, bind_eq_ok]
    constructor
    · rintro ⟨tag₁, hword, hwords⟩
      obtain ⟨setting, hsays, rfl⟩ := readWord_eq_ok_iff.mp hword
      obtain ⟨settings, hall, rfl⟩ := ih.mp hwords
      exact ⟨setting :: settings, .cons hsays hall, rfl⟩
    · rintro ⟨settings, hsays, rfl⟩
      cases hsays with
      | cons hsays hall =>
        exact ⟨_, readWord_eq_ok_iff.mpr ⟨_, hsays, rfl⟩, ih.mpr ⟨_, hall, rfl⟩⟩

/-- Words are read as a tag if and only if they stand for it. -/
theorem ofWords_eq_ok_iff {start : Nat} {words : List Word} {tag : OpeningTag} :
    ofWords start words = .ok tag ↔ Reads (words.map Word.symbols) tag := by
  cases words with
  | nil =>
    constructor
    · intro h
      cases h
    · intro h
      cases h
  | cons word words =>
    rw [ofWords]
    constructor
    · intro h
      split at h
      · next name hname =>
        obtain ⟨hsymbols, hvalid⟩ := filter_plain?_eq_some_iff.mp hname
        obtain ⟨settings, hsays, rfl⟩ := foldlM_readWord_eq_ok_iff.mp h
        rw [List.map_cons, hsymbols]
        exact .mk hvalid hsays
      · cases h
    · intro h
      rw [List.map_cons] at h
      generalize hsymbols : word.symbols = symbols at h
      cases h with
      | @mk name _ settings hvalid hsays =>
        simp only [filter_plain?_eq_some_iff.mpr ⟨rfl, hvalid⟩]
        exact foldlM_readWord_eq_ok_iff.mpr ⟨_, hsays, rfl⟩

/-! ## The whole content -/

/-- The tag that the content of an opening tag stands for, and whether it closes itself. -/
inductive Spells : Markup → OpeningTag → Bool → Prop
  /-- A name and nothing else. -/
  | bare {content : Markup} {name : Text} {closed : Bool} :
      isTagName name = true → splitSlash content.trimmed = (ofText name, closed) →
      Spells content (bare name) closed
  | words {content inner : Markup} {closed : Bool} {words : List Markup} {tag : OpeningTag} :
      inner.any isBlankSymbol = true → Word.Splits inner words → Reads words tag →
      splitSlash content.trimmed = (inner, closed) → Spells content tag closed

theorem any_isBlankSymbol_of_name {name : Text} (h : isTagName name = true) :
    (ofText name).any isBlankSymbol = false := by
  rw [List.any_eq_false]
  refine forall_mem_ofText.mpr fun c hc hblank => ?_
  exact notMem_name (isAttributeName_of_isTagName h) (isDelimiter_of_isBlank hblank) hc

/-- **The content of an opening tag is read as a tag if and only if it stands for it.** -/
theorem read_eq_ok_iff {span : Span} {content : Markup} {tag : OpeningTag} {closed : Bool} :
    read span content = .ok (tag, closed) ↔ Spells content tag closed := by
  rw [read]
  rcases hsplit : splitSlash content.trimmed with ⟨inner, closed'⟩
  have hsplit' : splitSlash (dropWhileEnd isBlankSymbol (content.dropWhile isBlankSymbol))
      = (inner, closed') := hsplit
  simp only [hsplit']
  constructor
  · intro h
    split at h
    · next hblank =>
      obtain ⟨opening, hopening, h⟩ := bind_eq_ok.mp h
      cases h
      obtain ⟨words, hwords, hreads⟩ := bind_eq_ok.mp hopening
      exact .words hblank (Word.splits_of_split hwords) (ofWords_eq_ok_iff.mp hreads) hsplit
    · split at h
      · next name hname =>
        obtain ⟨rfl, hvalid⟩ := filter_plain?_eq_some_iff.mp hname
        cases h
        exact .bare hvalid hsplit
      · cases h
  · intro h
    cases h with
    | bare hvalid hinner =>
      obtain ⟨rfl, rfl⟩ := Prod.mk.inj (hsplit.symm.trans hinner)
      rw [if_neg (by simp [any_isBlankSymbol_of_name hvalid])]
      simp only [filter_plain?_eq_some_iff.mpr ⟨rfl, hvalid⟩]
      rfl
    | words hblank hwords hreads hinner =>
      obtain ⟨rfl, rfl⟩ := Prod.mk.inj (hsplit.symm.trans hinner)
      rw [if_pos hblank, ofContent]
      obtain ⟨words, hsplit, rfl⟩ := Word.split_of_splits hwords _
      rw [hsplit]
      exact bind_eq_ok.mpr ⟨tag, ofWords_eq_ok_iff.mpr hreads, rfl⟩

end

/-! ## What a tag is made of -/

/-- The values of a tag under their names: that of the key, and those of the attributes. -/
def values (tag : OpeningTag) : List (Text × Interpolation) :=
  (tag.key.map (keyAttribute, ·)).toList ++ tag.attributes.entries

theorem mem_insertEntry {β : Type} {name : Text} {value : β} {l : List (Text × β)} {e : Text × β}
    (h : e ∈ insertEntry name value l) : e = (name, value) ∨ e ∈ l := by
  induction l with
  | nil => exact .inl (List.mem_singleton.mp h)
  | cons d l ih =>
    obtain ⟨n, v⟩ := d
    rw [insertEntry] at h
    split at h
    · next hn =>
      rcases List.mem_cons.mp h with rfl | h
      · exact .inl (by rw [hn])
      · exact .inr (List.mem_cons_of_mem _ h)
    · rcases List.mem_cons.mp h with rfl | h
      · exact .inr List.mem_cons_self
      · exact (ih h).imp_right (List.mem_cons_of_mem _)

theorem mem_values_withSetting {tag : OpeningTag} {setting : Text × Markup}
    {e : Text × Interpolation} (h : e ∈ (tag.withSetting setting).values) :
    e = (setting.1, .ofMarkup setting.2) ∨ e ∈ tag.values := by
  rw [withSetting, withValue] at h
  split at h
  · next hkey =>
    rcases List.mem_append.mp h with h | h
    · obtain rfl : (keyAttribute, Interpolation.ofMarkup setting.2) = e := by
        simpa [eq_comm] using h
      exact .inl (by rw [hkey.1])
    · exact .inr (List.mem_append_right _ h)
  · rcases List.mem_append.mp h with h | h
    · exact .inr (List.mem_append_left _ h)
    · exact (mem_insertEntry h).imp_right (List.mem_append_right _)

/-- Every value of a tag is that of one of its attributes as they were written. -/
theorem mem_values_ofSettings {name : Text} {settings : List (Text × Markup)}
    {e : Text × Interpolation} (h : e ∈ (ofSettings name settings).values) :
    ∃ setting ∈ settings, e = (setting.1, .ofMarkup setting.2) := by
  have hfold : ∀ tag : OpeningTag, e ∈ (settings.foldl withSetting tag).values →
      e ∈ tag.values ∨ ∃ setting ∈ settings, e = (setting.1, .ofMarkup setting.2) := by
    clear h
    induction settings with
    | nil =>
      intro tag h
      exact .inl h
    | cons setting settings ih =>
      intro tag h
      rcases ih _ h with h | ⟨s, hs, he⟩
      · rcases mem_values_withSetting h with h | h
        · exact .inr ⟨setting, List.mem_cons_self, h⟩
        · exact .inl h
      · exact .inr ⟨s, List.mem_cons_of_mem _ hs, he⟩
  rcases hfold (bare name) h with h | h
  · cases h
  · exact h

theorem name_foldl_withSetting (settings : List (Text × Markup)) (tag : OpeningTag) :
    (settings.foldl withSetting tag).name = tag.name := by
  induction settings generalizing tag with
  | nil => rfl
  | cons setting settings ih =>
    rw [List.foldl_cons, ih, withSetting, withValue]
    split <;> rfl

@[simp] theorem name_ofSettings (name : Text) (settings : List (Text × Markup)) :
    (ofSettings name settings).name = name :=
  name_foldl_withSetting settings (bare name)

/-- Only names name elements. -/
theorem Spells.isTagName [Alphabet] {content : Markup} {tag : OpeningTag} {closed : Bool}
    (h : Spells content tag closed) : isTagName tag.name = true := by
  cases h with
  | bare hname => exact hname
  | words _ _ hreads =>
    cases hreads with
    | mk hname =>
      rw [name_ofSettings]
      exact hname

/-- A value is what a word has behind its first equals sign. -/
theorem Says.sublist [Alphabet] {word : Markup} {setting : Text × Markup} (h : Says word setting) :
    setting.2.Sublist word := by
  cases h with
  | bare => exact List.nil_sublist _
  | valued => exact ((List.Sublist.refl _).cons _).trans (List.sublist_append_right _ _)

theorem trimmed_sublist (m : Markup) : m.trimmed.Sublist m := by
  rw [Markup.trimmed, dropWhileEnd_eq_rdropWhile]
  exact (List.rdropWhile_prefix _ _).sublist.trans (List.dropWhile_sublist _)

/-- Behind a content without its slash stand the slash and white space, or nothing. -/
theorem isPrefix_splitSlash (m : Markup) : (splitSlash m).1 <+: m := by
  rw [splitSlash]
  split
  · rw [dropWhileEnd_eq_rdropWhile]
    exact (List.rdropWhile_prefix _ _).trans (List.dropLast_prefix m)
  · exact List.prefix_rfl

variable [Alphabet]

/-- Whether an attribute can be written as the content of a tag has it. -/
structure IsSetting (content : Markup) (setting : Text × Markup) : Prop where
  attributeName : isAttributeName setting.1 = true
  subset : setting.2 ⊆ content
  no_quote : Symbol.char '\'' ∉ setting.2 ∨ Symbol.char '"' ∉ setting.2

/-- A tag is made of attributes that stand in its content. -/
theorem Spells.exists_settings {content : Markup} {tag : OpeningTag} {closed : Bool}
    (h : Spells content tag closed) :
    ∃ settings, tag = ofSettings tag.name settings ∧
      ∀ setting ∈ settings, IsSetting content setting := by
  cases h with
  | bare => exact ⟨[], rfl, by simp⟩
  | words _ hwords hreads hinner =>
    have hcontent := (isPrefix_splitSlash content.trimmed).sublist.trans (trimmed_sublist content)
    rw [hinner] at hcontent
    cases hreads with
    | @mk name words settings _ hall =>
      refine ⟨settings, by rw [name_ofSettings], fun setting hsetting => ?_⟩
      obtain ⟨word, hword, hvalue⟩ := exists_of_forall₂ hall hsetting
      have hword := List.mem_cons_of_mem (Markup.ofText name) hword
      refine ⟨?_, ?_, ?_⟩
      · cases hvalue with
        | bare hname => exact hname
        | valued hname => exact hname
      · intro x hx
        apply hcontent.subset
        apply hwords.flatten_sublist.subset
        exact List.mem_flatten.mpr ⟨word, hword, hvalue.sublist.subset hx⟩
      · rcases hwords.no_quote word hword with hquote | hquote
        · exact .inl fun hx => hquote (hvalue.sublist.subset hx)
        · exact .inr fun hx => hquote (hvalue.sublist.subset hx)

/-- The values of a tag are made of the symbols of its content. -/
theorem Spells.mem_content {content : Markup} {tag : OpeningTag} {closed : Bool}
    (h : Spells content tag closed) {e : Text × Interpolation} (he : e ∈ tag.values) {x : Symbol}
    (hx : x ∈ e.2.symbols) : x ∈ content := by
  obtain ⟨settings, hsettings, hall⟩ := h.exists_settings
  rw [hsettings] at he
  obtain ⟨setting, hsetting, rfl⟩ := mem_values_ofSettings he
  rw [Interpolation.symbols_ofMarkup] at hx
  exact (hall setting hsetting).subset hx

end OpeningTag

end MarkupTemplate
