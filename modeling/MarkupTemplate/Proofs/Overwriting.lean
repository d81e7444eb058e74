import Mathlib.Data.List.Flatten
import Mathlib.Data.List.Nodup
import Mathlib.Data.List.Pairwise
import MarkupTemplate.Proofs.Building
import MarkupTemplate.Proofs.FilledTags

/-!
# What a tag keeps of what is written in it

    content ──words──▶ settings ──overwrite──▶ surviving settings ~ key, attributes

A tag writes one setting after the other, and a later one takes the place of an earlier one with the
same *target*. The target is the attribute of the name, or the key if the name is `key` and the
value reads a slot. `written` lists the settings of a tag with all slots of its content, and
`surviving` those that no later one has overwritten. `assigned_ofSettings` says that these are what
the tag assigns in the end, in some order.

So the slots of a tag are read, or they are `Overwritten`: `overwritten_iff`.
-/

namespace MarkupTemplate

open OpeningTag Markup

/-! ## The slots of a part -/

namespace Markup

variable {p : Symbol → Bool}

theorem slots_reverse (m : Markup) : Markup.slots m.reverse = m.slots.reverse :=
  List.filterMap_reverse

/-- No slot is lost if only characters are dropped. -/
theorem slots_dropWhile (hp : ∀ s, p (.slot s) = false) (m : Markup) :
    Markup.slots (m.dropWhile p) = m.slots := by
  induction m with
  | nil => rfl
  | cons x m ih =>
    cases x with
    | slot s => rw [List.dropWhile_cons_of_neg (by simp [hp])]
    | char c =>
      rw [List.dropWhile_cons]
      split
      · exact ih
      · rfl

theorem slots_dropWhileEnd (hp : ∀ s, p (.slot s) = false) (m : Markup) :
    Markup.slots (dropWhileEnd p m) = m.slots := by
  rw [dropWhileEnd, slots_reverse, slots_dropWhile hp, slots_reverse, List.reverse_reverse]

theorem slots_trimmed (m : Markup) : m.trimmed.slots = m.slots := by
  have hblank : ∀ s, isBlankSymbol (.slot s) = false := fun _ => rfl
  rw [trimmed, slots_dropWhileEnd hblank, slots_dropWhile hblank]

end Markup

/-- Words have the slots of what they are cut out of. -/
theorem Word.Splits.slots_flatten {m : Markup} {words : List Markup} (h : Splits m words) :
    Markup.slots words.flatten = m.slots := by
  induction h with
  | last => rw [flatten_one]
  | blank _ _ _ ih => simp [ih]
  | quoted _ _ _ _ ih => simp [ih]

namespace OpeningTag

theorem slots_splitSlash (m : Markup) : Markup.slots (splitSlash m).1 = m.slots := by
  rw [splitSlash]
  split
  · next h =>
    obtain ⟨front, rfl⟩ := List.getLast?_eq_some_iff.mp h.1
    rw [List.dropLast_concat, slots_dropWhileEnd fun _ => rfl]
    simp
  · rfl

/-- The slots of the values that are set. -/
def settingSlots (settings : List (Text × Markup)) : List Slot :=
  settings.flatMap fun setting => setting.2.slots

@[simp] theorem settingSlots_nil : settingSlots [] = [] := rfl

@[simp] theorem settingSlots_cons (setting : Text × Markup) (settings : List (Text × Markup)) :
    settingSlots (setting :: settings) = setting.2.slots ++ settingSlots settings := rfl

theorem Says.slots_eq [Alphabet] {word : Markup} {setting : Text × Markup} (h : Says word setting) :
    word.slots = setting.2.slots := by
  cases h with
  | bare => simp
  | valued => simp

/-! ## What a tag writes -/

/-- What a word sets: the name before its first equals sign, and the value behind it. -/
def settingOf (word : Markup) : Text × Markup :=
  ((plain? (word.takeWhile (!·.isChar '='))).getD [], (word.dropWhile (!·.isChar '=')).drop 1)

/-- What the content of an opening tag sets, in order: one thing for each word but the first. -/
def written (content : Markup) : List (Text × Markup) :=
  match Word.split 0 (splitSlash content.trimmed).1 with
  | .ok (_ :: words) => words.map fun word => settingOf word.symbols
  | _ => []

section

variable [Alphabet]

theorem Says.settingOf_eq {word : Markup} {setting : Text × Markup} (h : Says word setting) :
    settingOf word = setting := by
  obtain ⟨name, value⟩ := setting
  obtain ⟨-, hname, hvalue⟩ := says_iff.mp h
  rw [settingOf, hname, hvalue, plain?_eq_some_iff.mpr rfl]
  rfl

theorem map_settingOf_eq {words : List Markup} {settings : List (Text × Markup)}
    (h : List.Forall₂ Says words settings) : words.map settingOf = settings := by
  induction h with
  | nil => rfl
  | cons hsays _ ih => rw [List.map_cons, hsays.settingOf_eq, ih]

theorem slots_flatten_eq {words : List Markup} {settings : List (Text × Markup)}
    (h : List.Forall₂ Says words settings) :
    Markup.slots words.flatten = settingSlots settings := by
  induction h with
  | nil => rfl
  | cons hsays _ ih => rw [List.flatten_cons, slots_append, hsays.slots_eq, ih, settingSlots_cons]

/-- A content is read word by word, also if it is only a name. -/
theorem Spells.exists_reads {content : Markup} {tag : OpeningTag} {closed : Bool}
    (h : Spells content tag closed) :
    ∃ words, Word.Splits (splitSlash content.trimmed).1 words ∧ Reads words tag := by
  cases h with
  | bare hname hinner =>
    rename_i name
    refine ⟨[ofText name], ?_, .mk hname .nil⟩
    rw [hinner]
    have hbare : ∀ x ∈ ofText name, Word.isBare x = true := by
      have hname := isAttributeName_of_isTagName hname
      refine forall_mem_ofText.mpr fun c hc => ?_
      simp [Word.isBare, isBlank_of_mem_name hname hc, isQuote_of_mem_name hname hc]
    have hne : ofText name ≠ [] := by
      intro hnil
      exact ne_nil_of_isAttributeName (isAttributeName_of_isTagName hname)
        (List.map_eq_nil_iff.mp hnil)
    have := Word.Splits.last hbare
    rwa [Word.one_ne_nil hne] at this
  | words _ hwords hreads hinner =>
    rw [hinner]
    exact ⟨_, hwords, hreads⟩

/-- **A tag is what the settings in its content make of its name, and they have all slots of the
content.** -/
theorem Spells.eq_ofSettings {content : Markup} {tag : OpeningTag} {closed : Bool}
    (h : Spells content tag closed) :
    tag = ofSettings tag.name (written content) ∧
      settingSlots (written content) = content.slots := by
  obtain ⟨symbols, hsplits, hreads⟩ := h.exists_reads
  obtain ⟨words, hsplit, hsymbols⟩ := Word.split_of_splits hsplits 0
  cases hreads with
  | @mk name symbols settings hname hsays =>
    obtain ⟨word, words, rfl, -, rfl⟩ := List.map_eq_cons_iff.mp hsymbols
    have hwritten : written content = settings := by
      rw [written, hsplit]
      show words.map (fun word => settingOf word.symbols) = settings
      rw [← map_settingOf_eq hsays, List.map_map]
      rfl
    rw [hwritten, name_ofSettings]
    refine ⟨rfl, ?_⟩
    calc
      settingSlots settings = Markup.slots (words.map Word.symbols).flatten :=
        (slots_flatten_eq hsays).symm
      _ = Markup.slots (ofText name :: words.map Word.symbols).flatten := by
        rw [List.flatten_cons, slots_append, slots_ofText, List.nil_append]
      _ = Markup.slots (splitSlash content.trimmed).1 := hsplits.slots_flatten
      _ = content.slots := by rw [slots_splitSlash, slots_trimmed]

end

/-! ## Targets -/

/-- What a value is assigned to. -/
inductive Target where
  /-- The key of the element. -/
  | key
  /-- The attribute of a name. -/
  | attribute (name : Text)
  deriving DecidableEq, Repr

/-- The target of a setting: a `key` that reads a slot is the key, and all else are attributes. -/
def target (setting : Text × Markup) : Target :=
  if setting.1 = keyAttribute ∧ setting.2.slots ≠ [] then .key else .attribute setting.1

/-- The values of a tag under what they are assigned to. -/
def assigned (tag : OpeningTag) : List (Target × Interpolation) :=
  (tag.key.map (Target.key, ·)).toList ++
    tag.attributes.entries.map fun e => (.attribute e.1, e.2)

/-- What a setting assigns. -/
def assignment (setting : Text × Markup) : Target × Interpolation :=
  (target setting, .ofMarkup setting.2)

/-- An entry is put behind those of other names, up to the order. -/
theorem insertEntry_perm {β : Type} (name : Text) (value : β) {l : List (Text × β)}
    (h : (l.map Prod.fst).Nodup) :
    (insertEntry name value l).Perm (l.filter (·.1 ≠ name) ++ [(name, value)]) := by
  induction l with
  | nil => exact .refl _
  | cons e l ih =>
    obtain ⟨n, v⟩ := e
    have h := List.nodup_cons.mp h
    by_cases hn : n = name
    · subst hn
      have hrest : l.filter (·.1 ≠ n) = l := by
        refine List.filter_eq_self.mpr fun e he => ?_
        have : e.1 ≠ n := fun hn => h.1 (List.mem_map.mpr ⟨e, he, hn⟩)
        simpa using this
      rw [insertEntry, if_pos rfl, List.filter_cons_of_neg (by simp), hrest]
      exact (List.perm_append_singleton _ _).symm
    · rw [insertEntry, if_neg hn, List.filter_cons_of_pos (by simpa using hn), List.cons_append]
      exact (ih h.2).cons _

theorem filter_assigned_key (tag : OpeningTag) : tag.assigned.filter (·.1 ≠ .key) =
    tag.attributes.entries.map fun e => (.attribute e.1, e.2) := by
  rw [assigned, List.filter_append, List.filter_map]
  cases tag.key <;> simp [Function.comp_def]

theorem filter_assigned_attribute (tag : OpeningTag) (name : Text) :
    tag.assigned.filter (·.1 ≠ .attribute name) = (tag.key.map (Target.key, ·)).toList ++
      (tag.attributes.entries.filter (·.1 ≠ name)).map fun e => (.attribute e.1, e.2) := by
  rw [assigned, List.filter_append, List.filter_map]
  cases tag.key <;> simp [Function.comp_def]

/-- A setting puts its value in the place of what had its target. -/
theorem assigned_withSetting (tag : OpeningTag) (setting : Text × Markup) :
    (tag.withSetting setting).assigned.Perm
      (tag.assigned.filter (·.1 ≠ target setting) ++ [assignment setting]) := by
  have hstatic : (Interpolation.ofMarkup setting.2).isStatic = false ↔ setting.2.slots ≠ [] := by
    rw [Interpolation.isStatic, Interpolation.reads_ofMarkup, List.isEmpty_eq_false_iff]
  by_cases hkey : setting.1 = keyAttribute ∧ setting.2.slots ≠ []
  · have htarget : target setting = .key := if_pos hkey
    rw [withSetting, withValue, if_pos (by rwa [hstatic]), assignment, htarget,
      filter_assigned_key]
    exact (List.perm_append_singleton _ _).symm
  · have htarget : target setting = .attribute setting.1 := if_neg hkey
    rw [withSetting, withValue, if_neg (by rwa [hstatic]), assignment, htarget,
      filter_assigned_attribute, List.append_assoc]
    refine List.Perm.append_left _ ?_
    have := (insertEntry_perm setting.1 (Interpolation.ofMarkup setting.2)
      tag.attributes.nodup).map fun e => (Target.attribute e.1, e.2)
    rwa [List.map_append] at this

/-! ## What survives -/

/-- Whether no setting has a target. -/
def spares (settings : List (Text × Markup)) (t : Target) : Bool :=
  ∀ setting ∈ settings, t ≠ target setting

theorem spares_eq_true_iff {settings : List (Text × Markup)} {t : Target} :
    spares settings t = true ↔ ∀ setting ∈ settings, t ≠ target setting :=
  decide_eq_true_iff

theorem spares_cons (setting : Text × Markup) (later : List (Text × Markup)) (t : Target) :
    spares (setting :: later) t = (t ≠ target setting && spares later t) := by
  simp only [spares, List.forall_mem_cons, Bool.decide_and]

theorem exists_of_spares_eq_false {settings : List (Text × Markup)} {t : Target}
    (h : spares settings t = false) : ∃ setting ∈ settings, t = target setting := by
  simpa [spares] using h

/-- The settings that no later one overwrites. -/
def surviving (settings : List (Text × Markup)) : List (Text × Markup) :=
  settings.pwFilter fun s t => target s ≠ target t

theorem surviving_sublist (settings : List (Text × Markup)) :
    (surviving settings).Sublist settings := List.pwFilter_sublist settings

theorem surviving_cons_of_spares {setting : Text × Markup} {later : List (Text × Markup)}
    (h : spares later (target setting) = true) :
    surviving (setting :: later) = setting :: surviving later := by
  refine List.pwFilter_cons_of_pos fun other hother => ?_
  exact spares_eq_true_iff.mp h other (List.pwFilter_subset later hother)

theorem surviving_cons_of_mem {setting other : Text × Markup} {later : List (Text × Markup)}
    (hother : other ∈ later) (h : target setting = target other) :
    surviving (setting :: later) = surviving later := by
  refine List.pwFilter_cons_of_neg fun hall => ?_
  -- One of the settings with this target survives.
  refine (List.forall_mem_pwFilter ?_ setting later).mp hall other hother h
  intro s t u hsu
  by_cases hst : target s = target t
  · exact .inr (hst ▸ hsu)
  · exact .inl hst

theorem surviving_cons (setting : Text × Markup) (later : List (Text × Markup)) :
    surviving (setting :: later) =
      [setting].filter (spares later <| target ·) ++ surviving later := by
  cases h : spares later (target setting) with
  | true => simp [surviving_cons_of_spares h, h]
  | false =>
    obtain ⟨other, hother, htarget⟩ := exists_of_spares_eq_false h
    simp [surviving_cons_of_mem hother htarget, h]

/-- What settings leave of what was assigned before, and what survives of them. -/
theorem assigned_foldl_withSetting (settings : List (Text × Markup)) (tag : OpeningTag) :
    (settings.foldl withSetting tag).assigned.Perm
      (tag.assigned.filter (spares settings ·.1) ++ (surviving settings).map assignment) := by
  induction settings generalizing tag with
  | nil => simp [surviving, spares]
  | cons setting later ih =>
    have hbefore : (tag.assigned.filter (·.1 ≠ target setting)).filter (spares later ·.1) =
        tag.assigned.filter (spares (setting :: later) ·.1) := by
      simp only [List.filter_filter, spares_cons, Bool.and_comm]
    have hsetting : [assignment setting].filter (spares later ·.1) =
        ([setting].filter (spares later <| target ·)).map assignment := by
      show ([setting].map assignment).filter _ = _
      rw [List.filter_map]
      rfl
    calc
      (later.foldl withSetting (tag.withSetting setting)).assigned.Perm
          ((tag.withSetting setting).assigned.filter (spares later ·.1) ++
            (surviving later).map assignment) := ih _
      List.Perm _ ((tag.assigned.filter (·.1 ≠ target setting) ++ [assignment setting]).filter
          (spares later ·.1) ++ (surviving later).map assignment) :=
        ((assigned_withSetting tag setting).filter _).append_right _
      _ = _ := by
        rw [List.filter_append, hbefore, hsetting, List.append_assoc, ← List.map_append,
          ← surviving_cons]

/-- **A tag assigns what survives of its settings.** -/
theorem assigned_ofSettings (name : Text) (settings : List (Text × Markup)) :
    (ofSettings name settings).assigned.Perm ((surviving settings).map assignment) :=
  assigned_foldl_withSetting settings (bare name)

/-! ## Overwritten slots -/

/-- Whether a slot stands in a setting that a later one with the same target overwrites. -/
inductive Overwritten (slot : Slot) : List (Text × Markup) → Prop
  | here {setting other : Text × Markup} {later : List (Text × Markup)} :
      slot ∈ setting.2.slots → other ∈ later → target setting = target other →
      Overwritten slot (setting :: later)
  | there {setting : Text × Markup} {later : List (Text × Markup)} :
      Overwritten slot later → Overwritten slot (setting :: later)

/-- **A slot that is set once is overwritten if and only if no setting with it survives.** -/
theorem overwritten_iff {settings : List (Text × Markup)} (h : (settingSlots settings).Nodup)
    {slot : Slot} : Overwritten slot settings ↔
      slot ∈ settingSlots settings ∧ slot ∉ settingSlots (surviving settings) := by
  induction settings with
  | nil =>
    constructor
    · intro h
      cases h
    · rintro ⟨h, -⟩
      cases h
  | cons setting later ih =>
    rw [settingSlots_cons, List.nodup_append'] at h
    obtain ⟨-, hlater, hdisjoint⟩ := h
    have hsurviving : settingSlots (surviving later) ⊆ settingSlots later :=
      ((surviving_sublist later).flatMap _).subset
    rw [settingSlots_cons, List.mem_append]
    cases hspares : spares later (target setting) with
    | true =>
      rw [surviving_cons_of_spares hspares, settingSlots_cons, List.mem_append]
      constructor
      · intro h
        cases h with
        | here _ hother htarget =>
          exact absurd htarget (spares_eq_true_iff.mp hspares _ hother)
        | there h =>
          obtain ⟨hslot, hnot⟩ := (ih hlater).mp h
          exact ⟨.inr hslot, fun h => h.elim (hdisjoint · hslot) hnot⟩
      · rintro ⟨hslot, hnot⟩
        have hnot := not_or.mp hnot
        exact .there ((ih hlater).mpr ⟨hslot.resolve_left hnot.1, hnot.2⟩)
    | false =>
      obtain ⟨other, hother, htarget⟩ := exists_of_spares_eq_false hspares
      rw [surviving_cons_of_mem hother htarget]
      constructor
      · intro h
        cases h with
        | here hslot => exact ⟨.inl hslot, fun h => hdisjoint hslot (hsurviving h)⟩
        | there h =>
          obtain ⟨hslot, hnot⟩ := (ih hlater).mp h
          exact ⟨.inr hslot, hnot⟩
      · rintro ⟨hslot | hslot, hnot⟩
        · exact .here hslot hother htarget
        · exact .there ((ih hlater).mpr ⟨hslot, hnot⟩)

end OpeningTag

end MarkupTemplate
