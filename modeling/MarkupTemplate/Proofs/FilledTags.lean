import MarkupTemplate.Proofs.Building
import MarkupTemplate.Proofs.Filling

/-!
# Opening tags whose slots are filled

What the content of an opening tag spells when its slots are filled: the same tag, with filled
values. The name and the names of the attributes have no slots. A tag with a key is the exception,
since what gave the key is an attribute when it reads nothing.

`OpeningTag.Spells.fill` is about one tag; `Cuts.fill` cuts filled markup into lexemes that are
filled, and `Tag.Opens.fill` and `Tag.closing?_of_filled` say what the tags among them are.
-/

namespace MarkupTemplate

variable {f : Slot → Text}

/-- No slot is left. -/
theorem Markup.slot_notMem_fill (m : Markup) (s : Slot) : .slot s ∉ m.fill f := by
  intro hmem
  obtain ⟨x, -, hx⟩ := List.mem_flatMap.mp hmem
  cases x with
  | char c => cases List.mem_singleton.mp hx
  | slot s' => exact slot_notMem_ofText s _ hx

namespace Interpolation

/-- The text with texts in the place of its slots. -/
def fill (f : Slot → Text) (i : Interpolation) : Interpolation := .ofMarkup (i.symbols.fill f)

@[simp] theorem symbols_fill (i : Interpolation) : (i.fill f).symbols = i.symbols.fill f :=
  symbols_ofMarkup _

@[simp] theorem fill_ofMarkup (m : Markup) : (ofMarkup m).fill f = ofMarkup (m.fill f) := by
  rw [fill, symbols_ofMarkup]

/-- A text of markup without slots is static. -/
theorem isStatic_ofMarkup {m : Markup} (h : ∀ s, .slot s ∉ m) : (ofMarkup m).isStatic = true := by
  rw [isStatic, List.isEmpty_iff, reads_ofMarkup, List.eq_nil_iff_forall_not_mem]
  exact fun s hs => h s (Markup.mem_slots.mp hs)

end Interpolation

namespace Attributes

variable {α β : Type}

theorem map_insert (g : α → β) (a : Attributes α) (name : Text) (value : α) :
    (a.insert name value).map g = (a.map g).insert name (g value) := by
  apply Attributes.ext
  simp only [entries_map, entries_insert]
  induction a.entries with
  | nil => rfl
  | cons e l ih =>
    obtain ⟨n, v⟩ := e
    by_cases hn : n = name
    · simp [insertEntry, hn]
    · simp [insertEntry, hn, ih]

end Attributes

namespace OpeningTag

/-! ## Settings -/

/-- An attribute, given by the markup of its value, with filled slots. -/
def fillSetting (f : Slot → Text) (setting : Text × Markup) : Text × Markup :=
  (setting.1, setting.2.fill f)

/-- The tag with filled values, without its key. -/
def fill (f : Slot → Text) (tag : OpeningTag) : OpeningTag :=
  ⟨tag.name, tag.attributes.map (Interpolation.fill f), none⟩

/-- A static value is that of an attribute. -/
theorem withSetting_of_static {setting : Text × Markup} (h : ∀ s, .slot s ∉ setting.2)
    (tag : OpeningTag) : tag.withSetting setting =
      { tag with attributes := tag.attributes.insert setting.1 (.ofMarkup setting.2) } := by
  rw [withSetting, withValue, if_neg]
  simp [Interpolation.isStatic_ofMarkup h]

theorem foldl_withSetting_of_static {settings : List (Text × Markup)}
    (h : ∀ setting ∈ settings, ∀ s, .slot s ∉ setting.2) (tag : OpeningTag) :
    settings.foldl withSetting tag = ⟨tag.name,
      settings.foldl (fun a setting => a.insert setting.1 (.ofMarkup setting.2)) tag.attributes,
      tag.key⟩ := by
  induction settings generalizing tag with
  | nil => rfl
  | cons setting settings ih =>
    have h := List.forall_mem_cons.mp h
    rw [List.foldl_cons, ih h.2, withSetting_of_static h.1, List.foldl_cons]

/-- If there is no key then a value is that of an attribute, and there was no key before. -/
theorem withSetting_of_key_eq_none {tag : OpeningTag} {setting : Text × Markup}
    (h : (tag.withSetting setting).key = none) : tag.key = none ∧ tag.withSetting setting =
      { tag with attributes := tag.attributes.insert setting.1 (.ofMarkup setting.2) } := by
  rw [withSetting, withValue] at h ⊢
  split
  · next hkey =>
    rw [if_pos hkey] at h
    cases h
  · next hkey =>
    rw [if_neg hkey] at h
    exact ⟨h, rfl⟩

theorem fill_withSetting {tag : OpeningTag} {setting : Text × Markup}
    (h : (tag.withSetting setting).key = none) :
    (tag.withSetting setting).fill f = (tag.fill f).withSetting (fillSetting f setting) := by
  have hstatic : ∀ s, .slot s ∉ (fillSetting f setting).2 := Markup.slot_notMem_fill setting.2
  rw [withSetting_of_static hstatic, (withSetting_of_key_eq_none h).2]
  simp only [fill, fillSetting, Attributes.map_insert, Interpolation.fill_ofMarkup]

theorem key_of_foldl_withSetting {settings : List (Text × Markup)} {tag : OpeningTag}
    (h : (settings.foldl withSetting tag).key = none) : tag.key = none := by
  induction settings generalizing tag with
  | nil => exact h
  | cons setting settings ih => exact (withSetting_of_key_eq_none (ih h)).1

theorem fill_foldl_withSetting {settings : List (Text × Markup)} {tag : OpeningTag}
    (h : (settings.foldl withSetting tag).key = none) :
    (settings.foldl withSetting tag).fill f
      = (settings.map (fillSetting f)).foldl withSetting (tag.fill f) := by
  induction settings generalizing tag with
  | nil => rfl
  | cons setting settings ih =>
    rw [List.foldl_cons, ih h, fill_withSetting (key_of_foldl_withSetting h), List.map_cons,
      List.foldl_cons]

theorem fill_ofSettings {name : Text} {settings : List (Text × Markup)}
    (h : (ofSettings name settings).key = none) :
    (ofSettings name settings).fill f = ofSettings name (settings.map (fillSetting f)) :=
  fill_foldl_withSetting h

/-! ## Words -/

section

variable [Alphabet]

theorem Says.fill {word : Markup} {setting : Text × Markup} (h : Says word setting) :
    Says (word.fill f) (fillSetting f setting) := by
  cases h with
  | bare hname =>
    rw [Markup.fill_ofText]
    exact .bare hname
  | valued hname =>
    rw [Markup.fill_append, Markup.fill_ofText]
    exact .valued hname

/-- A slot by itself names nothing. -/
theorem Says.not_slot {s : Slot} {m : Markup} {setting : Text × Markup} :
    ¬ Says (.slot s :: m) setting := by
  intro h
  obtain ⟨hname, htake, -⟩ := says_iff.mp h
  rw [List.takeWhile_cons_of_pos rfl] at htake
  cases hn : setting.1 with
  | nil => exact ne_nil_of_isAttributeName hname hn
  | cons c name =>
    rw [hn] at htake
    cases htake

theorem Reads.slot_notMem {s : Slot} {m : Markup} {words : List Markup} {tag : OpeningTag}
    (h : Reads words tag) : (.slot s :: m) ∉ words := by
  intro hmem
  cases h with
  | @mk name words settings hname hsays =>
    rcases List.mem_cons.mp hmem with hmem | hmem
    · cases name with
      | nil => cases hname
      | cons c name => cases hmem
    · obtain ⟨i, hi, hword⟩ := List.getElem_of_mem hmem
      have hi' : i < settings.length := by rwa [← hsays.length_eq]
      have hsays := hsays.get hi hi'
      rw [List.get_eq_getElem, hword] at hsays
      exact Says.not_slot hsays

theorem Reads.fill {words : List Markup} {tag : OpeningTag} (h : Reads words tag)
    (hkey : tag.key = none) : Reads (words.map (Markup.fill f)) (tag.fill f) := by
  cases h with
  | mk hname hsays =>
    rw [List.map_cons, Markup.fill_ofText, fill_ofSettings hkey]
    refine .mk hname ?_
    rw [List.forall₂_map_left_iff, List.forall₂_map_right_iff]
    exact hsays.imp fun _ _ h => h.fill

end

/-! ## The slash at the end -/

theorem splitSlash_of_getLast? {m : Markup} (h : m.getLast? ≠ some (.char '/')) :
    splitSlash m = (m, false) := by
  rw [splitSlash, if_neg (fun hslash => h hslash.1)]

/-- A slot at the front stays there. -/
theorem splitSlash_slot_cons (s : Slot) (m : Markup) :
    ∃ rest, (splitSlash (.slot s :: m)).1 = .slot s :: rest := by
  rw [splitSlash]
  split
  · next hslash =>
    cases m with
    | nil => cases hslash.1
    | cons x m =>
      rw [List.dropLast_cons_of_ne_nil (List.cons_ne_nil _ _), dropWhileEnd_cons_of_neg rfl]
      exact ⟨_, rfl⟩
  · exact ⟨m, rfl⟩

section Inert

variable (hf : ∀ s, (f s).Inert)

include hf

theorem splitSlash_fill_concat_char (front : Markup) (c : Char) :
    splitSlash (Markup.fill f (front ++ [.char c])) =
      ((splitSlash (front ++ [.char c])).1.fill f, (splitSlash (front ++ [.char c])).2) := by
  have hfill : Markup.fill f (front ++ [.char c]) = front.fill f ++ [.char c] := by simp
  rw [hfill, splitSlash, splitSlash]
  simp only [List.getLast?_concat, List.dropLast_concat,
    (uniform_isBlank_or_isQuote hf).any_getLast?_fill hf, (uniform_isBlankSymbol hf).any_fill hf]
  split
  · rw [(uniform_isBlankSymbol hf).dropWhileEnd_fill hf]
  · rw [hfill]

/-- A slash at the end of a value that stands behind part of a word is part of the word. -/
theorem splitSlash_fill_concat_slot {front : Markup} {s : Slot}
    (hblank : front.any isBlankSymbol = true)
    (hfront : ∀ x ∈ front.getLast?, Word.isBare x = true) :
    splitSlash (Markup.fill f (front ++ [.slot s]))
      = (Markup.fill f (front ++ [.slot s]), false) := by
  obtain ⟨t, c, ht⟩ := (List.eq_nil_or_concat (f s)).resolve_left (hf s).ne_nil
  rw [List.concat_eq_append] at ht
  have hfill : Markup.fill f (front ++ [.slot s])
      = (front.fill f ++ Markup.ofText t) ++ [.char c] := by
    simp [ht]
  have hany : (front.fill f ++ Markup.ofText t).any isBlankSymbol = true := by
    rw [List.any_append, (uniform_isBlankSymbol hf).any_fill hf, hblank, Bool.true_or]
  have hlast : (front.fill f ++ Markup.ofText t).getLast?.any
      (·.isCharWith fun c => isBlank c || Word.isQuote c) = false := by
    rcases List.eq_nil_or_concat t with rfl | ⟨t, d, rfl⟩
    · rw [Markup.ofText_nil, List.append_nil, (uniform_isBlank_or_isQuote hf).any_getLast?_fill hf]
      cases hx : front.getLast? with
      | none => rfl
      | some x => simpa [Word.isBare] using hfront x hx
    · have hd : d ∈ f s := by simp [ht]
      simp [List.getLast?_append, (hf s).isBlank_eq_false d hd, (hf s).isQuote_eq_false d hd]
  rw [hfill, splitSlash, if_neg]
  rw [List.dropLast_concat, hlast, hany]
  simp

/-! ## The whole content -/

variable [Alphabet]

/-- Taking off the slash commutes with filling if what is left is a tag. -/
theorem Spells.splitSlash_fill {content : Markup} {tag : OpeningTag} {closed : Bool}
    (h : Spells content tag closed) : splitSlash (content.fill f).trimmed =
      ((splitSlash content.trimmed).1.fill f, (splitSlash content.trimmed).2) := by
  rw [Markup.trimmed_fill hf]
  rcases List.eq_nil_or_concat content.trimmed with hnil | ⟨front, x, hx⟩
  · rw [hnil]
    rfl
  rw [List.concat_eq_append] at hx
  cases x with
  | char c => rw [hx, splitSlash_fill_concat_char hf]
  | slot s =>
    have hslot : splitSlash content.trimmed = (front ++ [.slot s], false) := by
      rw [hx, splitSlash_of_getLast? (by simp)]
    cases h with
    | @bare name _ _ hinner =>
      have hmem : Symbol.slot s ∈ Markup.ofText name := by
        rw [← (Prod.mk.inj (hslot.symm.trans hinner)).1]
        simp
      exact absurd hmem (Markup.slot_notMem_ofText s name)
    | words hblank hwords hreads hinner =>
      obtain ⟨rfl, rfl⟩ := Prod.mk.inj (hslot.symm.trans hinner)
      rw [hslot, hx]
      apply splitSlash_fill_concat_slot hf (by simpa [isBlankSymbol] using hblank)
      intro y hy
      by_contra hbare
      -- Otherwise the slot would be a word by itself.
      refine hreads.slot_notMem (hwords.mem_of_concat fun z hz => ?_)
      rw [Option.mem_unique hz hy]
      simpa using hbare

/-- **Filled content spells the filled tag.** -/
theorem Spells.fill {content : Markup} {tag : OpeningTag} {closed : Bool}
    (h : Spells content tag closed) (hkey : tag.key = none) :
    Spells (content.fill f) (tag.fill f) closed := by
  have hslash := h.splitSlash_fill hf
  cases h with
  | bare hname hinner =>
    rw [hinner, Markup.fill_ofText] at hslash
    exact .bare hname hslash
  | words hblank hwords hreads hinner =>
    rw [hinner] at hslash
    exact .words (by rwa [(uniform_isBlankSymbol hf).any_fill hf]) (hwords.fill hf)
      (hreads.fill hkey) hslash

end Inert

/-- No opening tag begins with a slot. -/
theorem Spells.not_slot [Alphabet] {s : Slot} {m : Markup} {tag : OpeningTag} {closed : Bool} :
    ¬ Spells (.slot s :: m) tag closed := by
  intro h
  have htrimmed : Markup.trimmed (.slot s :: m) = .slot s :: dropWhileEnd isBlankSymbol m := by
    rw [Markup.trimmed, List.dropWhile_cons_of_neg (by simp [isBlankSymbol]),
      dropWhileEnd_cons_of_neg rfl]
  obtain ⟨rest, hrest⟩ := splitSlash_slot_cons s (dropWhileEnd isBlankSymbol m)
  rw [← htrimmed] at hrest
  cases h with
  | @bare name _ hname hinner =>
    rw [hinner] at hrest
    cases name with
    | nil => cases hname
    | cons c name => cases hrest
  | words _ hwords hreads hinner =>
    rw [hinner] at hrest
    obtain rfl : _ = Symbol.slot s :: rest := hrest
    obtain ⟨word, words, rfl⟩ := hwords.exists_cons rfl
    exact hreads.slot_notMem List.mem_cons_self

end OpeningTag

/-! ## Lexemes -/

/-- A lexeme and the lexeme of filled markup in its place. -/
inductive Lexeme.Filled (f : Slot → Text) : Lexeme → Lexeme → Prop
  | run {r r' : Run} : r'.symbols = r.symbols.fill f → Filled f (.run r) (.run r')
  | tag {t t' : Tag} : t'.content = t.content.fill f → Filled f (.tag t) (.tag t')

/-- What corresponds to a joined list is joined from what corresponds to its parts. -/
theorem exists_append_of_forall₂ {α β : Type} {R : α → β → Prop} {l m : List α} {k : List β}
    (h : List.Forall₂ R (l ++ m) k) :
    ∃ l' m', k = l' ++ m' ∧ List.Forall₂ R l l' ∧ List.Forall₂ R m m' := by
  induction l generalizing k with
  | nil => exact ⟨[], k, rfl, .nil, h⟩
  | cons a l ih =>
    cases h with
    | cons hab h =>
      obtain ⟨l', m', rfl, hl, hm⟩ := ih h
      exact ⟨_ :: l', m', rfl, .cons hab hl, hm⟩

theorem exists_concat_of_forall₂ {α β : Type} {R : α → β → Prop} {l : List α} {a : α} {k : List β}
    (h : List.Forall₂ R (l ++ [a]) k) :
    ∃ l' b, k = l' ++ [b] ∧ List.Forall₂ R l l' ∧ R a b := by
  obtain ⟨l', m', rfl, hl, hm⟩ := exists_append_of_forall₂ h
  cases hm with
  | cons hab hnil =>
    cases hnil
    exact ⟨l', _, rfl, hl, hab⟩

/-- Filled markup is cut at the same brackets. -/
theorem Cuts.fill (hf : ∀ s, (f s).Inert) {start : Nat} {m : Markup} {l : List Lexeme}
    (h : Cuts start m l) (start' : Nat) :
    ∃ l', Cuts start' (m.fill f) l' ∧ List.Forall₂ (Lexeme.Filled f) l l' := by
  induction h generalizing start' with
  | last htext => exact ⟨_, .last (Markup.fill_no_open hf htext), .cons (.run rfl) .nil⟩
  | @tag start text content rest lexemes htext hcontent _ ih =>
    obtain ⟨l', hcuts, hfilled⟩ := ih (start' + (text.fill f).byteLength + 1
      + (content.fill f).byteLength + 1)
    have hcuts' := Cuts.tag (Markup.fill_no_open hf htext)
      (Markup.fill_no_bracket hf hcontent) hcuts
    simp only [Markup.fill_append, Markup.fill_cons, Markup.fill_char, List.singleton_append]
    exact ⟨_, hcuts', .cons (.run rfl) (.cons (.tag rfl) hfilled)⟩

namespace Tag

variable {t t' : Tag}

theorem closing?_eq_some_iff {name : Text} : t.closing? = some name ↔
    ∃ m : Markup, t.content = .char '/' :: m ∧ Text.trimEnd (Text.trimStart m.text) = name := by
  rw [closing?]
  split
  · next m hcontent => simp [hcontent]
  · next hno => simpa using fun m hcontent _ => hno m hcontent

theorem closing?_eq_none (h : t.content.head? ≠ some (.char '/')) : t.closing? = none := by
  rw [Option.eq_none_iff_forall_ne_some]
  intro name hname
  obtain ⟨m, hm, -⟩ := closing?_eq_some_iff.mp hname
  rw [hm] at h
  exact h rfl

/-- A closing tag without a sigil in its name has no slots. -/
theorem slots_of_closing? {name : Text} (h : t.closing? = some name) (hname : sigil ∉ name) :
    t.content.slots = [] := by
  obtain ⟨m, hm, rfl⟩ := closing?_eq_some_iff.mp h
  rw [hm, Markup.slots_char_cons, List.eq_nil_iff_forall_not_mem]
  intro s hs
  have hsigil : sigil ∈ m.text :=
    List.mem_flatMap.mpr ⟨_, Markup.mem_slots.mp hs, List.mem_cons_self⟩
  exact hname (mem_dropWhileEnd (mem_dropWhile hsigil rfl) rfl)

theorem closing?_of_filled {name : Text} (h : t.closing? = some name) (hname : sigil ∉ name)
    (hcontent : t'.content = t.content.fill f) : t'.closing? = some name := by
  have hslot : ∀ s, Symbol.slot s ∉ t.content := by
    intro s hs
    have := Markup.mem_slots.mpr hs
    rw [slots_of_closing? h hname] at this
    cases this
  rw [closing?, hcontent, Markup.fill_eq_self hslot]
  exact h

variable [Alphabet]

theorem Opens.sigil_notMem_name {opening : OpeningTag} {closed : Bool}
    (h : t.Opens opening closed) : sigil ∉ opening.name := by
  have hname := (OpeningTag.read_eq_ok_iff.mp h.2).isTagName
  exact notMem_name (isAttributeName_of_isTagName hname) (by decide)

/-- An opening tag stays one, and opens the filled tag. -/
theorem Opens.fill (hf : ∀ s, (f s).Inert) {opening : OpeningTag} {closed : Bool}
    (h : t.Opens opening closed) (hkey : opening.key = none)
    (hcontent : t'.content = t.content.fill f) : t'.Opens (opening.fill f) closed := by
  have hspells := OpeningTag.read_eq_ok_iff.mp h.2
  constructor
  · cases hclosing : t'.closing? with
    | none => rfl
    | some name =>
      -- The slash was there before: it is not the first character of a value.
      obtain ⟨m, hm, -⟩ := closing?_eq_some_iff.mp hclosing
      rw [hcontent] at hm
      cases hc : t.content with
      | nil =>
        rw [hc] at hm
        cases hm
      | cons x rest =>
        rw [hc] at hspells hm
        cases x with
        | slot s => exact absurd hspells OpeningTag.Spells.not_slot
        | char c =>
          obtain ⟨hslash, -⟩ := List.cons.inj hm
          have hopening := closing?_eq_some_iff.mpr ⟨rest, hc.trans (by rw [hslash]), rfl⟩
          rw [h.1] at hopening
          cases hopening
  · rw [hcontent]
    exact OpeningTag.read_eq_ok_iff.mpr (hspells.fill hf hkey)

end Tag

end MarkupTemplate
