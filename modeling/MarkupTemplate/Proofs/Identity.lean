import MarkupTemplate.Identity
import MarkupTemplate.Proofs.Documents
import MarkupTemplate.Proofs.Sites

/-!
# What an identity determines

    fragments, shapes ──assemble──▶ markup ──identity──▶ text ──Key.ofText──▶ key

Templates with different identities may have one key; the identity itself has to tell them apart. It
is a text, and neither the text of the markup nor the number of values is marked out in it: literal
text may look like a token, and it may hold NUL and a signature of its own. `eq_of_identity_eq` says
that the identity is nevertheless good enough. Two templates that are both read as trees, and have
the same identity, are made of the same markup and of values of the same shapes.

A template with values and one without are told apart by their ends only: the identity of the former
ends with a digit, and no markup that is read as a tree does. Among templates that need not be read,
one without values may spell out the identity of one with values; `identity_eq_iff` says that this
is the only way for two templates to share an identity.
-/

namespace MarkupTemplate

/-! ## Splitting a list where a property ends -/

/-- Two ways of splitting a list behind a part that has a property are the same, if the other part
does not begin with something that has the property. -/
theorem append_inj_of_head? {α : Type} {p : α → Bool} {s s' r r' : List α}
    (hs : ∀ x ∈ s, p x = true) (hs' : ∀ x ∈ s', p x = true) (hr : ∀ x ∈ r.head?, p x = false)
    (hr' : ∀ x ∈ r'.head?, p x = false) (h : s ++ r = s' ++ r') : s = s' ∧ r = r' := by
  induction s generalizing s' with
  | nil =>
    cases s' with
    | nil => exact ⟨rfl, h⟩
    | cons x s' =>
      have hx : p x = false := hr x (by rw [show r = x :: (s' ++ r') from h]; rfl)
      rw [hs' x List.mem_cons_self] at hx
      cases hx
  | cons x s ih =>
    cases s' with
    | nil =>
      have hx : p x = false := hr' x (by rw [show r' = x :: (s ++ r) from h.symm]; rfl)
      rw [hs x List.mem_cons_self] at hx
      cases hx
    | cons y s' =>
      obtain ⟨rfl, htail⟩ := List.cons.inj h
      obtain ⟨rfl, rfl⟩ := ih (fun y hy => hs y (List.mem_cons_of_mem _ hy))
        (fun y hy => hs' y (List.mem_cons_of_mem _ hy)) htail
      exact ⟨rfl, rfl⟩

/-- The last place of a separator is determined. -/
theorem append_cons_inj_of_notMem {α : Type} [DecidableEq α] {x : α} {s s' r r' : List α}
    (hr : x ∉ r) (hr' : x ∉ r') (h : s ++ x :: r = s' ++ x :: r') : s = s' ∧ r = r' := by
  have hne : ∀ {l : List α}, x ∉ l → ∀ y ∈ l.reverse, decide (y ≠ x) = true := by
    intro l hl y hy
    rw [decide_eq_true_eq]
    rintro rfl
    exact hl (List.mem_reverse.mp hy)
  have hrev : r.reverse ++ x :: s.reverse = r'.reverse ++ x :: s'.reverse := by
    simpa using congrArg List.reverse h
  obtain ⟨hr, hs⟩ := append_inj_of_head? (hne hr) (hne hr') (by simp) (by simp) hrev
  exact ⟨List.reverse_injective (List.cons.inj hs).2, List.reverse_injective hr⟩

/-! ## Signatures -/

namespace Text

theorem ofNat_injective {n k : Nat} (h : ofNat n = ofNat k) : n = k := by
  calc
    n = Nat.ofDigitChars 10 (ofNat n) 0 := Nat.ofDigitChars_ten_toDigits.symm
    _ = Nat.ofDigitChars 10 (ofNat k) 0 := by rw [h]
    _ = k := Nat.ofDigitChars_ten_toDigits

end Text

theorem Shape.signature_injective {s t : Shape} (h : s.signature = t.signature) : s = t := by
  cases s <;> cases t <;> first | rfl | cases h

theorem Shape.isDigit_signature (s : Shape) : s.signature.isDigit = false := by
  cases s <;> rfl

namespace Markup

/-- The offset and the shape that a signature shows. -/
def mark (pair : Site × Shape) : Nat × Shape := (pair.1.offset, pair.2)

theorem head?_flatMap_signature {pairs : List (Site × Shape)} :
    ∀ c ∈ (pairs.flatMap signature).head?, c.isDigit = false := by
  cases pairs with
  | nil =>
    intro c hc
    cases hc
  | cons pair pairs =>
    intro c hc
    obtain rfl : pair.2.signature = c := by simpa [signature] using hc
    exact Shape.isDigit_signature _

/-- Signatures one after another show all their offsets and shapes: no offset runs into the
signature behind it. -/
theorem map_mark_of_flatMap_signature {l l' : List (Site × Shape)}
    (h : l.flatMap signature = l'.flatMap signature) : l.map mark = l'.map mark := by
  induction l generalizing l' with
  | nil =>
    cases l' with
    | nil => rfl
    | cons pair l' => cases h
  | cons pair l ih =>
    cases l' with
    | nil => cases h
    | cons pair' l' =>
      obtain ⟨hshape, hrest⟩ := List.cons.inj h
      obtain ⟨hoffset, hrest⟩ := append_inj_of_head?
        (fun c hc => Text.isDigit_of_mem_ofNat hc) (fun c hc => Text.isDigit_of_mem_ofNat hc)
        head?_flatMap_signature head?_flatMap_signature hrest
      have hmark : mark pair = mark pair' :=
        Prod.ext (Text.ofNat_injective hoffset) (Shape.signature_injective hshape)
      rw [List.map_cons, List.map_cons, hmark, ih hrest]

theorem notMem_flatMap_signature (l : List (Site × Shape)) : '\x00' ∉ l.flatMap signature := by
  intro h
  obtain ⟨pair, -, hc⟩ := List.mem_flatMap.mp h
  rcases List.mem_cons.mp hc with hc | hc
  · cases hs : pair.2 <;> rw [hs] at hc <;> cases hc
  · cases Text.isDigit_of_mem_ofNat hc

/-- Signatures end with a digit. -/
theorem flatMap_signature_eq_concat {l : List (Site × Shape)} (h : l ≠ []) :
    ∃ s d, l.flatMap signature = s ++ [d] ∧ d.isDigit = true := by
  obtain ⟨l, pair, rfl⟩ := (List.eq_nil_or_concat l).resolve_left h
  obtain ⟨digits, d, hdigits⟩ :=
    (List.eq_nil_or_concat (Text.ofNat pair.1.offset)).resolve_left Text.ofNat_ne_nil
  refine ⟨l.flatMap signature ++ pair.2.signature :: digits, d, ?_, ?_⟩
  · simp [signature, hdigits]
  · apply Text.isDigit_of_mem_ofNat (n := pair.1.offset)
    rw [hdigits]
    simp

/-! ## Sites -/

theorem sitesFrom_char_ne (offset : Nat) (c : Char) (m : Markup) (s : Slot) (rest : List Site) :
    sitesFrom offset (.char c :: m) ≠ ⟨offset, s⟩ :: rest := by
  intro h
  have hmem : (⟨offset, s⟩ : Site) ∈ sitesFrom (offset + c.utf8Size) m := by
    rw [show sitesFrom (offset + c.utf8Size) m = _ from h]
    exact List.mem_cons_self
  have hle : offset + c.utf8Size ≤ offset := le_offset_of_mem_sitesFrom hmem
  have := c.utf8Size_pos
  omega

/-- **Markup is determined by its text and its sites.** -/
theorem ext_of_sitesFrom {m n : Markup} {offset : Nat} (ht : m.text = n.text)
    (hs : sitesFrom offset m = sitesFrom offset n) : m = n := by
  induction m generalizing n offset with
  | nil =>
    cases n with
    | nil => rfl
    | cons y n => exact absurd ht.symm (text_ne_nil y n)
  | cons x m ih =>
    cases n with
    | nil => exact absurd ht (text_ne_nil x m)
    | cons y n =>
      -- The texts agree on the first symbol unless only one of the two is a slot.
      cases x with
      | char c =>
        cases y with
        | char d =>
          obtain ⟨rfl, htail⟩ := List.cons.inj ht
          rw [ih htail hs]
        | slot t => exact absurd hs (sitesFrom_char_ne offset c m t _)
      | slot s =>
        cases y with
        | char d => exact absurd hs.symm (sitesFrom_char_ne offset d n s _)
        | slot t =>
          obtain ⟨hsite, hs⟩ := List.cons.inj hs
          obtain rfl : s = t := by injection hsite
          rw [ih (List.append_cancel_left ht) hs]

theorem sites_ext {l l' : List Site} (ho : l.map Site.offset = l'.map Site.offset)
    (hs : l.map Site.slot = l'.map Site.slot) : l = l' := by
  induction l generalizing l' with
  | nil =>
    cases l' with
    | nil => rfl
    | cons site' l' => cases ho
  | cons site l ih =>
    cases l' with
    | nil => cases ho
    | cons site' l' =>
      obtain ⟨hoffset, hoffsets⟩ := List.cons.inj ho
      obtain ⟨hslot, hslots⟩ := List.cons.inj hs
      obtain rfl : site = site' := by
        cases site
        cases hoffset
        cases hslot
        rfl
      rw [ih hoffsets hslots]

/-! ## The sites of assembled markup -/

/-- Interleaved markup has the slots of consecutive indices. -/
theorem slots_interleave (fragment : Text) (fragments : List Text) (index : Nat) :
    (interleave index (fragment :: fragments)).slots
      = (List.range' index fragments.length).filterMap Slot.ofIndex? := by
  induction fragments generalizing fragment index with
  | nil => exact slots_ofText fragment
  | cons next fragments ih =>
    rw [interleave, slots_append, slots_append, slots_ofText, ih, List.length_cons,
      List.range'_succ, List.filterMap_cons]
    · cases Slot.ofIndex? index <;> rfl
    · intro h
      cases h

theorem length_filterMap_ofIndex? {n : Nat} (h : n ≤ poolSize) :
    ((List.range' 0 n).filterMap Slot.ofIndex?).length = n := by
  have hsome : ∀ i ∈ List.range' 0 n, (Slot.ofIndex? i).isSome = true := by
    intro i hi
    have hi : i < n := by simpa using hi
    have : 0 < i + 1 ∧ i + 1 ≤ poolSize := by omega
    rw [Slot.ofIndex?, Slot.ofNumber?, dif_pos this]
    rfl
  rw [List.length_filterMap_eq_countP, List.countP_eq_length.mpr hsome, List.length_range']

theorem assemble_eq_ok {fragments : List Text} {n : Nat} {m : Markup}
    (h : assemble fragments n = .ok m) :
    n ≤ poolSize ∧ fragments.length = n + 1 ∧ m = interleave 0 fragments := by
  rw [assemble] at h
  split at h
  · cases h
  · split at h
    · cases h
    · cases h
      refine ⟨?_, ?_, rfl⟩ <;> omega

theorem slots_of_assemble {fragments : List Text} {n : Nat} {m : Markup}
    (h : assemble fragments n = .ok m) :
    m.slots = (List.range' 0 n).filterMap Slot.ofIndex? := by
  obtain ⟨-, hlength, rfl⟩ := assemble_eq_ok h
  cases fragments with
  | nil => cases hlength
  | cons fragment fragments =>
    -- There is one slot for each fragment but the first.
    obtain rfl : fragments.length = n := by simpa using hlength
    exact slots_interleave fragment fragments 0

/-- Assembled markup has the slots of all values. -/
theorem mem_slots_of_assemble {fragments : List Text} {n : Nat} {m : Markup}
    (h : assemble fragments n = .ok m) {slot : Slot} : slot ∈ m.slots ↔ slot.index < n := by
  rw [slots_of_assemble h, List.mem_filterMap]
  constructor
  · rintro ⟨i, hi, hslot⟩
    rw [Slot.ofIndex?_eq_some_iff.mp hslot]
    simpa using hi
  · intro hslot
    exact ⟨slot.index, by simpa using hslot, slot.ofIndex?_index⟩

/-- Assembled markup has one site for each value. -/
theorem length_sites_of_assemble {fragments : List Text} {n : Nat} {m : Markup}
    (h : assemble fragments n = .ok m) : m.sites.length = n := by
  rw [← List.length_map Site.slot, sites, map_slot_sitesFrom, slots_of_assemble h,
    length_filterMap_ofIndex? (assemble_eq_ok h).1]

/-! ## Identities -/

theorem identity_nil (m : Markup) : m.identity [] = m.text := by
  rw [identity, List.zip_nil_right]

theorem identity_of_ne_nil {m : Markup} {shapes : List Shape} (h : m.sites.zip shapes ≠ []) :
    m.identity shapes = m.text ++ '\x00' :: (m.sites.zip shapes).flatMap signature := by
  rw [identity]
  split
  · next hnil => exact absurd hnil h
  · rfl

theorem zip_ne_nil_of_assemble {fragments : List Text} {shapes : List Shape} {m : Markup}
    (h : assemble fragments shapes.length = .ok m) (hne : shapes ≠ []) :
    m.sites.zip shapes ≠ [] := by
  intro hzip
  have hlength : (m.sites.zip shapes).length = shapes.length := by
    rw [List.length_zip, length_sites_of_assemble h, Nat.min_self]
  rw [hzip] at hlength
  exact hne (List.length_eq_zero_iff.mp hlength.symm)

/-- The sites of assembled markup are known from their offsets: the slots are numbered in order. -/
theorem sites_eq_of_marks {fragments fragments' : List Text} {shapes shapes' : List Shape}
    {m m' : Markup} (h : assemble fragments shapes.length = .ok m)
    (h' : assemble fragments' shapes'.length = .ok m')
    (hmarks : (m.sites.zip shapes).map mark = (m'.sites.zip shapes').map mark) :
    m.sites = m'.sites ∧ shapes = shapes' := by
  have hlength := length_sites_of_assemble h
  have hlength' := length_sites_of_assemble h'
  have hshapes : shapes = shapes' := by
    calc
      shapes = ((m.sites.zip shapes).map mark).map Prod.snd := by
        rw [List.map_map]
        exact (List.map_snd_zip (Nat.le_of_eq hlength.symm)).symm
      _ = ((m'.sites.zip shapes').map mark).map Prod.snd := by rw [hmarks]
      _ = shapes' := by
        rw [List.map_map]
        exact List.map_snd_zip (Nat.le_of_eq hlength'.symm)
  subst hshapes
  have hoffsets : m.sites.map Site.offset = m'.sites.map Site.offset := by
    calc
      m.sites.map Site.offset = ((m.sites.zip shapes).map Prod.fst).map Site.offset := by
        rw [List.map_fst_zip (Nat.le_of_eq hlength)]
      _ = ((m.sites.zip shapes).map mark).map Prod.fst := by rw [List.map_map, List.map_map]; rfl
      _ = ((m'.sites.zip shapes).map mark).map Prod.fst := by rw [hmarks]
      _ = ((m'.sites.zip shapes).map Prod.fst).map Site.offset := by
        rw [List.map_map, List.map_map]; rfl
      _ = m'.sites.map Site.offset := by rw [List.map_fst_zip (Nat.le_of_eq hlength')]
  have hslots : m.sites.map Site.slot = m'.sites.map Site.slot := by
    rw [sites, sites, map_slot_sitesFrom, map_slot_sitesFrom, slots_of_assemble h,
      slots_of_assemble h']
  exact ⟨sites_ext hoffsets hslots, rfl⟩

/-- Templates that both have values, or both have none, are told apart by their identities. -/
theorem eq_of_identity_eq_of_iff {fragments fragments' : List Text} {shapes shapes' : List Shape}
    {m m' : Markup} (h : assemble fragments shapes.length = .ok m)
    (h' : assemble fragments' shapes'.length = .ok m') (hvalues : shapes = [] ↔ shapes' = [])
    (hid : m.identity shapes = m'.identity shapes') : m = m' ∧ shapes = shapes' := by
  by_cases hnil : shapes = []
  · obtain rfl := hvalues.mp hnil
    subst hnil
    rw [identity_nil, identity_nil] at hid
    obtain ⟨hsites, -⟩ := sites_eq_of_marks h h' (by simp)
    exact ⟨ext_of_sitesFrom hid hsites, rfl⟩
  · have hnil' : shapes' ≠ [] := fun h => hnil (hvalues.mpr h)
    rw [identity_of_ne_nil (zip_ne_nil_of_assemble h hnil),
      identity_of_ne_nil (zip_ne_nil_of_assemble h' hnil')] at hid
    -- The text may hold NUL, but the last one stands in front of the signatures.
    obtain ⟨htext, hsignatures⟩ := append_cons_inj_of_notMem (notMem_flatMap_signature _)
      (notMem_flatMap_signature _) hid
    obtain ⟨hsites, hshapes⟩ :=
      sites_eq_of_marks h h' (map_mark_of_flatMap_signature hsignatures)
    exact ⟨ext_of_sitesFrom htext hsites, hshapes⟩

/-- Markup without slots is the text that it is assembled from. -/
theorem eq_ofText_of_assemble_zero {fragments : List Text} {m : Markup}
    (h : assemble fragments 0 = .ok m) : m = ofText m.text := by
  obtain ⟨-, hlength, rfl⟩ := assemble_eq_ok h
  obtain ⟨fragment, rfl⟩ := List.length_eq_one_iff.mp hlength
  rw [interleave, text_ofText]

/-- **When two templates share their identity.** Either they are made of the same markup and of
values of the same shapes, or one of them has no values and its markup spells out the identity of
the other, which has. -/
theorem identity_eq_iff {fragments fragments' : List Text} {shapes shapes' : List Shape}
    {m m' : Markup} (h : assemble fragments shapes.length = .ok m)
    (h' : assemble fragments' shapes'.length = .ok m') :
    m.identity shapes = m'.identity shapes' ↔
      (m = m' ∧ shapes = shapes') ∨
      (shapes = [] ∧ shapes' ≠ [] ∧ m = ofText (m'.identity shapes')) ∨
      (shapes' = [] ∧ shapes ≠ [] ∧ m' = ofText (m.identity shapes)) := by
  constructor
  · intro hid
    by_cases hnil : shapes = [] <;> by_cases hnil' : shapes' = []
    · exact .inl (eq_of_identity_eq_of_iff h h' (by simp [hnil, hnil']) hid)
    · subst hnil
      rw [identity_nil] at hid
      exact .inr (.inl ⟨rfl, hnil', hid ▸ eq_ofText_of_assemble_zero h⟩)
    · subst hnil'
      rw [identity_nil] at hid
      exact .inr (.inr ⟨rfl, hnil, hid ▸ eq_ofText_of_assemble_zero h'⟩)
    · exact .inl (eq_of_identity_eq_of_iff h h' (by simp [hnil, hnil']) hid)
  · rintro (⟨rfl, rfl⟩ | ⟨rfl, -, rfl⟩ | ⟨rfl, -, rfl⟩)
    · rfl
    · rw [identity_nil, text_ofText]
    · rw [identity_nil, text_ofText]

/-- A text with a NUL in it imitates a template with one value. -/
theorem identity_imitated :
    assemble [txt "a$1b\x00=1"] ([] : List Shape).length = .ok (ofText (txt "a$1b\x00=1")) ∧
      assemble [txt "a", txt "b"] [Shape.scalar].length
        = .ok (interleave 0 [txt "a", txt "b"]) ∧
      (ofText (txt "a$1b\x00=1")).identity []
        = (interleave 0 [txt "a", txt "b"]).identity [.scalar] := by
  have h : assemble [txt "a$1b\x00=1"] ([] : List Shape).length
      = .ok (ofText (txt "a$1b\x00=1")) := rfl
  have h' : assemble [txt "a", txt "b"] [Shape.scalar].length
      = .ok (interleave 0 [txt "a", txt "b"]) := rfl
  refine ⟨h, h', (identity_eq_iff h h').mpr (.inr (.inl ⟨rfl, List.cons_ne_nil _ _, ?_⟩))⟩
  decide +kernel

/-- So identities do not tell all templates apart: these two have different texts, different sites
and different shapes. -/
theorem exists_identity_eq :
    ∃ fragments fragments' shapes shapes' m m',
      assemble fragments shapes.length = .ok m ∧ assemble fragments' shapes'.length = .ok m' ∧
        m.identity shapes = m'.identity shapes' ∧
        m.text ≠ m'.text ∧ m.sites ≠ m'.sites ∧ shapes ≠ shapes' :=
  ⟨[txt "a$1b\x00=1"], [txt "a", txt "b"], [], [.scalar], ofText (txt "a$1b\x00=1"),
    interleave 0 [txt "a", txt "b"], rfl, rfl, by decide +kernel, by decide +kernel,
    by decide +kernel, by decide +kernel⟩

/-- The identity of a template with values ends with a digit. -/
theorem identity_eq_concat {fragments : List Text} {shapes : List Shape} {m : Markup}
    (h : assemble fragments shapes.length = .ok m) (hne : shapes ≠ []) :
    ∃ t d, m.identity shapes = t ++ [d] ∧ d.isDigit = true := by
  have hzip := zip_ne_nil_of_assemble h hne
  obtain ⟨s, d, hs, hd⟩ := flatMap_signature_eq_concat hzip
  refine ⟨m.text ++ '\x00' :: s, d, ?_, hd⟩
  rw [identity_of_ne_nil hzip, hs, List.append_assoc, List.cons_append]

end Markup

/-! ## The end of a template -/

theorem Cuts.ne_nil {start : Nat} {m : Markup} {l : List Lexeme} (h : Cuts start m l) : l ≠ [] := by
  cases h <;> exact List.cons_ne_nil _ _

/-- The last symbol of markup ends a tag or belongs to the last run. -/
theorem Cuts.of_getLast? {start : Nat} {m : Markup} {l : List Lexeme} (h : Cuts start m l)
    {x : Symbol} (hx : m.getLast? = some x) :
    x = .char '>' ∨ ∃ r, l.getLast? = some (.run r) ∧ x ∈ r.symbols := by
  induction h with
  | last => exact .inr ⟨_, rfl, List.mem_of_getLast? hx⟩
  | @tag start text content rest lexemes _ _ hrest ih =>
    have hlast : (text ++ .char '<' :: (content ++ .char '>' :: rest)).getLast?
        = (.char '>' :: rest).getLast? := by
      simp [List.getLast?_append, List.getLast?_cons]
    rw [hlast] at hx
    cases rest with
    | nil =>
      left
      cases hx
      rfl
    | cons y rest =>
      rcases ih hx with hx | ⟨r, hr, hmem⟩
      · exact .inl hx
      · refine .inr ⟨r, ?_, hmem⟩
        rw [List.getLast?_cons_cons, List.getLast?_cons_of_ne_nil hrest.ne_nil, hr]

variable [Alphabet]

/-- A template ends with a bracket or with white space. -/
theorem Tree.getLast?_of_ofMarkup {dialect : Dialect} {shapes : List Shape} {m : Markup}
    {root : Tree} (h : Tree.ofMarkup dialect shapes m = .ok root) {x : Symbol}
    (hx : m.getLast? = some x) : ∃ c, x = .char c ∧ c.isDigit = false := by
  obtain ⟨b, hb, hroot⟩ := bind_eq_ok.mp h
  obtain ⟨last, hending, hblank, -⟩ := Builder.finish_eq_ok hroot
  rcases (Cutting.cuts_of_ending hending).of_getLast? hx with rfl | ⟨r, hr, hmem⟩
  · exact ⟨'>', rfl, rfl⟩
  · obtain rfl : last = r := by simpa using hr
    have hx : x.isCharWith isBlank = true := List.all_eq_true.mp hblank x hmem
    cases x with
    | slot s => cases hx
    | char c =>
      refine ⟨c, rfl, ?_⟩
      by_contra hdigit
      rw [Bool.not_eq_false] at hdigit
      rw [Symbol.isCharWith_char, isBlank_eq_false_of_isDigit hdigit] at hx
      cases hx

namespace Markup

/-- No template without values has the identity of a template with values. -/
theorem text_ne_identity {dialect : Dialect} {fragments : List Text} {shapes shapes' : List Shape}
    {m m' : Markup} {root : Tree} (h : assemble fragments shapes.length = .ok m)
    (hne : shapes ≠ []) (hroot : Tree.ofMarkup dialect shapes' m' = .ok root) :
    m'.text ≠ m.identity shapes := by
  intro htext
  obtain ⟨t, d, hid, hd⟩ := identity_eq_concat h hne
  rw [hid] at htext
  rcases List.eq_nil_or_concat m' with rfl | ⟨front, x, rfl⟩
  · simp at htext
  · obtain ⟨c, rfl, hc⟩ := Tree.getLast?_of_ofMarkup hroot (x := x) (by simp)
    have hlast : text front ++ [c] = t ++ [d] := by simpa [Symbol.text] using htext
    obtain ⟨-, hcd⟩ := List.append_inj' hlast rfl
    cases hcd
    rw [hd] at hc
    cases hc

/-- **Templates that are read as trees and have the same identity are made of the same markup and
of values of the same shapes.** -/
theorem eq_of_identity_eq {dialect : Dialect} {fragments fragments' : List Text}
    {shapes shapes' : List Shape} {m m' : Markup} {root root' : Tree}
    (h : assemble fragments shapes.length = .ok m)
    (h' : assemble fragments' shapes'.length = .ok m')
    (hroot : Tree.ofMarkup dialect shapes m = .ok root)
    (hroot' : Tree.ofMarkup dialect shapes' m' = .ok root')
    (hid : m.identity shapes = m'.identity shapes') : m = m' ∧ shapes = shapes' := by
  apply eq_of_identity_eq_of_iff h h' _ hid
  -- A template with values and one without would have to end with the same character.
  constructor
  · rintro rfl
    by_contra hne
    rw [identity_nil] at hid
    exact text_ne_identity h' hne hroot hid
  · rintro rfl
    by_contra hne
    rw [identity_nil] at hid
    exact text_ne_identity h hne hroot' hid.symm

end Markup

end MarkupTemplate
