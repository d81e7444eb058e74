import Mathlib.Logic.Basic
import MarkupTemplate.Interpolation

/-!
# The sites of markup

    markup ──text, sites──▶ marked text ──at?, within, scan──▶ slots, stretches, pieces

A marked text has no symbols, only offsets that say which parts of it are tokens. What is looked up
by these offsets is what the markup has there: `at?_sites` for a single place, `within_sites` for a
stretch, and `scan_sites` for the pieces of a whole text. Every offset is the length of what stands
in front, in bytes, so no matter which characters these are.
-/

namespace MarkupTemplate

/-! ## Tokens -/

namespace Text

theorem isDigit_of_mem_ofNat {n : Nat} {c : Char} (h : c ∈ ofNat n) : c.isDigit = true :=
  Nat.isDigit_of_mem_toDigits (by decide) (by decide) h

theorem ofNat_ne_nil {n : Nat} : ofNat n ≠ [] := Nat.toDigits_ne_nil

end Text

theorem isBlank_eq_false_of_isDigit {c : Char} (h : c.isDigit = true) : isBlank c = false := by
  rw [Char.isDigit_iff_toNat] at h
  obtain ⟨hlow, hhigh⟩ : 48 ≤ c.toNat ∧ c.toNat ≤ 57 := h
  cases hblank : isBlank c with
  | false => rfl
  | true =>
    obtain ⟨range, hrange, hc⟩ := CodeTable.exists_of_containsCode hblank
    -- No range of blank characters meets the digits.
    have hapart : ∀ range ∈ blankTable, range.2 < 48 ∨ 57 < range.1 := by decide
    have := hapart range hrange
    omega

/-- A token is made of the sigil and digits. -/
theorem Slot.notMem_token {c : Char} (hsigil : c ≠ sigil) (hdigit : c.isDigit = false) (s : Slot) :
    c ∉ s.token := by
  rw [token, List.mem_cons, not_or]
  refine ⟨hsigil, fun h => ?_⟩
  rw [Text.isDigit_of_mem_ofNat h] at hdigit
  cases hdigit

/-! ## Slices of a text that is put together -/

/-- The part of a text between two others is found by their lengths. -/
theorem Text.slice?_append (l t r : Text) :
    slice? (l ++ t ++ r) l.byteLength (l ++ t).byteLength = some t := by
  have hle : l.byteLength ≤ (l ++ t).byteLength := by
    rw [byteLength_append]
    omega
  have hlength : (l ++ t).byteLength - l.byteLength = t.byteLength := by
    rw [byteLength_append]
    omega
  rw [slice?, if_pos hle, hlength, List.append_assoc, dropBytes?_byteLength_append]
  exact takeBytes?_byteLength_append t r

/-! ## The sites of markup -/

theorem Slot.byteLength_token_le (s : Slot) : s.token.byteLength ≤ 3 := by
  have htoken : ∀ n ≤ poolSize, Text.byteLength (sigil :: Text.ofNat n) ≤ 3 := by decide +kernel
  exact htoken s.number s.number_le

/-- A token takes up some space. -/
theorem Site.offset_lt_stop (site : Site) : site.offset < site.stop := by
  have := sigil.utf8Size_pos
  rw [stop, Slot.token, Text.byteLength_cons]
  omega

namespace Markup

theorem text_ne_nil (x : Symbol) (m : Markup) : text (x :: m) ≠ [] := by
  cases x <;> simp [Symbol.text, Slot.token]

theorem sitesFrom_ofText (offset : Nat) (t : Text) : sitesFrom offset (ofText t) = [] := by
  induction t generalizing offset with
  | nil => rfl
  | cons c t ih => exact ih (offset + c.utf8Size)

theorem map_slot_sitesFrom (m : Markup) (offset : Nat) :
    (sitesFrom offset m).map Site.slot = m.slots := by
  induction m generalizing offset with
  | nil => rfl
  | cons x m ih =>
    cases x with
    | char c => exact ih (offset + c.utf8Size)
    | slot s => exact congrArg (s :: ·) (ih (offset + s.token.byteLength))

theorem le_offset_of_mem_sitesFrom {m : Markup} {offset : Nat} {site : Site}
    (h : site ∈ sitesFrom offset m) : offset ≤ site.offset := by
  induction m generalizing offset with
  | nil => cases h
  | cons x m ih =>
    cases x with
    | char c =>
      have := ih h
      omega
    | slot s =>
      rcases List.mem_cons.mp h with rfl | h
      · exact Nat.le_refl _
      · have := ih h
        omega

/-- The tokens of markup come one after the other. -/
theorem pairwise_sitesFrom (offset : Nat) (m : Markup) :
    (sitesFrom offset m).Pairwise fun s t => s.stop ≤ t.offset := by
  induction m generalizing offset with
  | nil => exact .nil
  | cons x m ih =>
    cases x with
    | char c => exact ih (offset + c.utf8Size)
    | slot s =>
      refine .cons ?_ (ih (offset + s.token.byteLength))
      intro site hsite
      exact le_offset_of_mem_sitesFrom hsite

/-- A site marks out its token, whatever stands before the markup. -/
theorem slice?_of_mem_sitesFrom (front : Text) {m : Markup} {site : Site}
    (h : site ∈ sitesFrom front.byteLength m) :
    (front ++ m.text).slice? site.offset site.stop = some site.slot.token := by
  induction m generalizing front with
  | nil => cases h
  | cons x m ih =>
    have hfront : front ++ text (x :: m) = front ++ x.text ++ text m := by
      rw [text_cons, List.append_assoc]
    rw [hfront]
    cases x with
    | char c =>
      apply ih
      rw [Text.byteLength_append]
      exact h
    | slot s =>
      rcases List.mem_cons.mp h with rfl | h
      · have hstop : Site.stop ⟨front.byteLength, s⟩ = (front ++ s.token).byteLength := by
          rw [Site.stop, Text.byteLength_append]
        rw [hstop]
        exact Text.slice?_append front s.token (text m)
      · apply ih
        rw [Text.byteLength_append]
        exact h

end Markup

/-! ## Looking up a place -/

namespace Site

/-- What is found is there, whether the sites are in order or not. -/
theorem mem_of_at? {offset : Nat} {sites : List Site} {slot : Slot}
    (h : at? offset sites = some slot) : ⟨offset, slot⟩ ∈ sites := by
  fun_induction at? offset sites with
  | case1 => cases h
  | case2 sites site above hdrop hoffset =>
    have hsite : site ∈ sites.drop (sites.length / 2) := hdrop ▸ List.mem_cons_self
    obtain rfl : ⟨offset, slot⟩ = site := by
      cases site
      cases h
      cases hoffset
      rfl
    exact List.mem_of_mem_drop hsite
  | case3 sites site above hdrop _ _ ih =>
    have hsite : ⟨offset, slot⟩ ∈ sites.drop (sites.length / 2) :=
      hdrop ▸ List.mem_cons_of_mem _ (ih h)
    exact List.mem_of_mem_drop hsite
  | case4 sites site above _ _ _ ih => exact List.mem_of_mem_take (ih h)

/-- Where a site stands among sites in order is a matter of its offset. -/
theorem mem_of_pairwise {below above : List Site} {site t : Site}
    (hsorted : (below ++ site :: above).Pairwise fun s t => s.offset < t.offset)
    (h : t ∈ below ++ site :: above) :
    t ∈ below ∧ t.offset < site.offset ∨ t = site ∨ t ∈ above ∧ site.offset < t.offset := by
  obtain ⟨-, habove, hbelow⟩ := List.pairwise_append.mp hsorted
  rcases List.mem_append.mp h with h | h
  · exact .inl ⟨h, hbelow t h site List.mem_cons_self⟩
  · rcases List.mem_cons.mp h with h | h
    · exact .inr (.inl h)
    · exact .inr (.inr ⟨h, (List.pairwise_cons.mp habove).1 t h⟩)

/-- What is there is found, if the sites are in order. -/
theorem at?_of_mem {offset : Nat} {sites : List Site} {slot : Slot}
    (hsorted : sites.Pairwise fun s t => s.offset < t.offset) (h : ⟨offset, slot⟩ ∈ sites) :
    at? offset sites = some slot := by
  fun_induction at? offset sites with
  | case1 sites hdrop =>
    have hlength := congrArg List.length hdrop
    rw [List.length_drop, List.length_nil] at hlength
    have hpos := List.length_pos_of_mem h
    omega
  | case2 sites site above hdrop hoffset =>
    rw [← List.take_append_drop (sites.length / 2) sites, hdrop] at hsorted h
    rcases mem_of_pairwise hsorted h with ⟨-, hlt⟩ | rfl | ⟨-, hlt⟩
    · exact absurd hoffset (Nat.ne_of_gt hlt)
    · rfl
    · exact absurd hoffset (Nat.ne_of_lt hlt)
  | case3 sites site above hdrop hoffset hlt ih =>
    rw [← List.take_append_drop (sites.length / 2) sites, hdrop] at hsorted h
    rcases mem_of_pairwise hsorted h with ⟨-, hgt⟩ | rfl | ⟨habove, -⟩
    · exact absurd hlt (Nat.lt_asymm hgt)
    · exact absurd rfl hoffset
    · exact ih (List.pairwise_cons.mp (List.pairwise_append.mp hsorted).2.1).2 habove
  | case4 sites site above hdrop hoffset hlt ih =>
    rw [← List.take_append_drop (sites.length / 2) sites, hdrop] at hsorted h
    rcases mem_of_pairwise hsorted h with ⟨hbelow, -⟩ | rfl | ⟨-, hgt⟩
    · exact ih (List.pairwise_append.mp hsorted).1 hbelow
    · exact absurd rfl hoffset
    · exact absurd hgt hlt

end Site

namespace Markup

/-- A token ends where the markup does, or before. -/
theorem stop_le_of_mem_sitesFrom {m : Markup} {offset : Nat} {site : Site}
    (h : site ∈ sitesFrom offset m) : site.stop ≤ offset + m.byteLength := by
  induction m generalizing offset with
  | nil => cases h
  | cons x m ih =>
    rw [byteLength_cons, ← Nat.add_assoc]
    cases x with
    | char c =>
      have hstop := ih h
      rwa [Nat.add_assoc] at hstop ⊢
    | slot s =>
      rcases List.mem_cons.mp h with rfl | h
      · exact Nat.le_add_right _ _
      · exact ih h

/-- The sites of markup are in order. -/
theorem pairwise_offset_sites (m : Markup) : m.sites.Pairwise fun s t => s.offset < t.offset :=
  (pairwise_sitesFrom 0 m).imp fun {s _} h => Nat.lt_of_lt_of_le s.offset_lt_stop h

/-- **The slot at a place of a marked text is the one that the markup has there.** -/
theorem at?_sites (front : Markup) (x : Symbol) (back : Markup) :
    Site.at? front.byteLength (front ++ x :: back).sites = x.slot? := by
  have hsites : (front ++ x :: back).sites
      = sitesFrom 0 front ++ sitesFrom front.byteLength (x :: back) := by
    rw [sites, sitesFrom_append, Nat.zero_add]
  cases x with
  | slot s =>
    apply Site.at?_of_mem (pairwise_offset_sites _)
    rw [hsites]
    exact List.mem_append_right _ List.mem_cons_self
  | char c =>
    rw [Symbol.slot?, Option.eq_none_iff_forall_ne_some]
    intro s hs
    -- A token in front ends here at the latest, and one behind begins behind the character.
    have hmem := Site.mem_of_at? hs
    rw [hsites] at hmem
    rcases List.mem_append.mp hmem with hmem | hmem
    · have hstop := stop_le_of_mem_sitesFrom hmem
      have hlt := Site.offset_lt_stop ⟨front.byteLength, s⟩
      rw [Nat.zero_add] at hstop
      exact Nat.not_lt.mpr hstop hlt
    · have hmem : ⟨front.byteLength, s⟩ ∈ sitesFrom (front.byteLength + c.utf8Size) back := hmem
      have hle := le_offset_of_mem_sitesFrom hmem
      have hpos := c.utf8Size_pos
      simp only at hle
      omega

/-- Markup has the same sites wherever it stands, counted from its beginning. -/
theorem map_rebase_sitesFrom (start offset : Nat) (m : Markup) :
    (sitesFrom (start + offset) m).map (Site.rebase start) = sitesFrom offset m := by
  induction m generalizing offset with
  | nil => rfl
  | cons x m ih =>
    cases x with
    | char c =>
      rw [sitesFrom, sitesFrom, Nat.add_assoc]
      exact ih (offset + c.utf8Size)
    | slot s =>
      rw [sitesFrom, sitesFrom, List.map_cons, Nat.add_assoc, ih, Site.rebase,
        Nat.add_sub_cancel_left]

/-- **The sites in a stretch of a marked text are those of the markup there.** -/
theorem within_sites (front m back : Markup) :
    Site.within front.byteLength (front.byteLength + m.byteLength) (front ++ (m ++ back)).sites
      = m.sites := by
  have hsites : (front ++ (m ++ back)).sites = sitesFrom 0 front ++ (sitesFrom front.byteLength m
      ++ sitesFrom (front.byteLength + m.byteLength) back) := by
    rw [sites, sitesFrom_append, sitesFrom_append, Nat.zero_add]
  rw [Site.within, hsites, List.filter_append, List.filter_append, List.filter_eq_nil_iff.mpr,
    List.filter_eq_self.mpr, List.filter_eq_nil_iff.mpr, List.nil_append, List.append_nil]
  · exact map_rebase_sitesFrom front.byteLength 0 m
  · intro site hsite
    have hle := le_offset_of_mem_sitesFrom hsite
    have hlt := site.offset_lt_stop
    simp only [decide_eq_true_eq]
    omega
  · intro site hsite
    have hle := le_offset_of_mem_sitesFrom hsite
    have hstop := stop_le_of_mem_sitesFrom hsite
    simp only [decide_eq_true_eq]
    omega
  · intro site hsite
    have hstop := stop_le_of_mem_sitesFrom hsite
    have hlt := site.offset_lt_stop
    simp only [decide_eq_true_eq]
    omega

end Markup

/-! ## Cutting a text at its sites -/

namespace Interpolation

/-- Literal text is one piece. -/
theorem ofMarkup_ofText (t : Text) : ofMarkup (Markup.ofText t) = ofText t := by
  induction t with
  | nil => rfl
  | cons c t ih =>
    show cons (.char c) (ofMarkup (Markup.ofText t)) = [.literal (c :: t)]
    rw [ih, ofText]
    split
    · next h => rw [h]; rfl
    · rfl

/-- A read ends the literal text before it. -/
theorem ofMarkup_ofText_append (t : Text) (s : Slot) (m : Markup) :
    ofMarkup (Markup.ofText t ++ .slot s :: m) = ofText t ++ .read s :: ofMarkup m := by
  induction t with
  | nil => rfl
  | cons c t ih =>
    show cons (.char c) (ofMarkup (Markup.ofText t ++ .slot s :: m)) = _
    rw [ih, ofText]
    split
    · next h => rw [h]; rfl
    · rfl

/-- Cutting a text that has been cut up to `front`, with some literal text passed since. -/
theorem scanFrom_sitesFrom (front literal : Text) (m : Markup) :
    scanFrom (front ++ literal ++ m.text) front.byteLength
        (m.sitesFrom (front ++ literal).byteLength)
      = ofMarkup (Markup.ofText literal ++ m) := by
  induction m generalizing front literal with
  | nil =>
    rw [Markup.sitesFrom, scanFrom, Markup.text_nil, List.append_nil, List.append_nil,
      Text.dropBytes?_byteLength_append, ofMarkup_ofText]
    rfl
  | cons x m ih =>
    cases x with
    | char c =>
      have htext : front ++ literal ++ Markup.text (.char c :: m)
          = front ++ (literal ++ [c]) ++ Markup.text m := by simp [Symbol.text]
      have hlength : (front ++ literal).byteLength + c.utf8Size
          = (front ++ (literal ++ [c])).byteLength := by simp [Nat.add_assoc]
      have hmarkup : Markup.ofText literal ++ .char c :: m
          = Markup.ofText (literal ++ [c]) ++ m := by simp [Markup.ofText]
      rw [htext, Markup.sitesFrom, hlength, hmarkup]
      exact ih front (literal ++ [c])
    | slot s =>
      have htext : front ++ literal ++ Markup.text (.slot s :: m)
          = front ++ literal ++ s.token ++ Markup.text m := by simp [Symbol.text]
      have hlength : (front ++ literal).byteLength + s.token.byteLength
          = (front ++ literal ++ s.token).byteLength := (Text.byteLength_append _ _).symm
      have htoken := Text.slice?_append (front ++ literal) s.token (Markup.text m)
      have hliteral := Text.slice?_append front literal (s.token ++ Markup.text m)
      rw [← List.append_assoc] at hliteral
      have hrest := ih (front ++ literal ++ s.token) []
      rw [List.append_nil] at hrest
      -- The site begins behind the literal text, and its token is there, so it is not passed over.
      rw [htext, Markup.sitesFrom, scanFrom, Site.stop, hlength, htoken, if_neg (by simp),
        hliteral, hrest, ofMarkup_ofText_append]
      rfl

/-- **Text and sites show the pieces of markup.** -/
theorem scan_sites (m : Markup) : scan m.text m.sites = ofMarkup m :=
  scanFrom_sitesFrom [] [] m

end Interpolation

end MarkupTemplate
