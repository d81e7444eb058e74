import MarkupTemplate.Proofs.RunningText
import MarkupTemplate.Proofs.Unfolded

/-!
# Scanning a text for tokens

    text, sites ──scan──▶ literals and reads ──normalized──▶ content
         └──accepted──▶ the sites of the reads

The sites that a text is scanned with need not be those of any markup. They may come in any order,
overlap, cut a character in two or run out of the text. `accepted` says which of them are taken:
each in its turn, if it does not reach back into the one that was taken before it and marks out a
piece of the text. `Scans` says without offsets into the whole text how sites cut what is left of
it, and the pieces that are scanned are cut by the accepted sites.

So scanning loses nothing, whatever the sites, and leaves no piece to spare. What running text
becomes is then known from the symbols of its pieces alone.

A machine adds offsets in words, and the end of a site that is far out of the text may be too large
for one. `scanOn_eq` says what becomes of that: a machine that wraps around scans as if it had words
of any size, and a machine that stops does so if there is such a site, and else scans like the
other. So `scanOn_lossless` and `normalizedOn_trims` are about every machine, and every text that it
can hold.
-/

namespace MarkupTemplate

/-! ## Cutting a text at byte offsets -/

namespace Text

/-- Only the empty text has no length. -/
theorem eq_nil_of_byteLength_eq_zero {t : Text} (h : t.byteLength = 0) : t = [] := by
  cases t with
  | nil => rfl
  | cons c t =>
    have := c.utf8Size_pos
    rw [byteLength_cons] at h
    omega

theorem eq_append_of_dropBytes? {t rest : Text} {n : Nat} (h : t.dropBytes? n = some rest) :
    ∃ front, t = front ++ rest ∧ front.byteLength = n := by
  fun_induction dropBytes? t n with
  | case1 t => exact ⟨[], by simpa using h, rfl⟩
  | case2 => cases h
  | case3 c t n hle ih =>
    obtain ⟨front, rfl, hfront⟩ := ih h
    refine ⟨c :: front, rfl, ?_⟩
    rw [byteLength_cons]
    omega
  | case4 => cases h

theorem eq_append_of_takeBytes? {t part : Text} {n : Nat} (h : t.takeBytes? n = some part) :
    ∃ back, t = part ++ back ∧ part.byteLength = n := by
  fun_induction takeBytes? t n generalizing part with
  | case1 t => exact ⟨t, by cases h; rfl, by cases h; rfl⟩
  | case2 => cases h
  | case3 c t n hle ih =>
    obtain ⟨part, hpart, rfl⟩ := Option.map_eq_some_iff.mp h
    obtain ⟨back, rfl, hlength⟩ := ih hpart
    refine ⟨back, rfl, ?_⟩
    rw [byteLength_cons]
    omega
  | case4 => cases h

/-- A slice is a part of the text, and stands where the offsets say. -/
theorem slice?_eq_some_iff {t part : Text} {start stop : Nat} :
    t.slice? start stop = some part ↔
      ∃ front back, t = front ++ part ++ back ∧ front.byteLength = start ∧
        (front ++ part).byteLength = stop := by
  constructor
  · intro h
    rw [slice?] at h
    split at h
    · next hle =>
      obtain ⟨rest, hrest, hpart⟩ := Option.bind_eq_some_iff.mp h
      obtain ⟨front, rfl, hfront⟩ := eq_append_of_dropBytes? hrest
      obtain ⟨back, rfl, hlength⟩ := eq_append_of_takeBytes? hpart
      refine ⟨front, back, (List.append_assoc _ _ _).symm, hfront, ?_⟩
      rw [byteLength_append]
      omega
    · cases h
  · rintro ⟨front, back, rfl, rfl, rfl⟩
    exact slice?_append front part back

/-- Of two fronts of a text, the shorter one is a front of the other. -/
theorem eq_append_of_byteLength_le {front rest front' rest' : Text}
    (h : front ++ rest = front' ++ rest') (hle : front.byteLength ≤ front'.byteLength) :
    ∃ between, front' = front ++ between ∧ rest = between ++ rest' := by
  rcases List.append_eq_append_iff.mp h with ⟨between, hfront, hrest⟩ | ⟨between, hfront, hrest⟩
  · exact ⟨between, hfront, hrest⟩
  · have hnil : between = [] := by
      apply eq_nil_of_byteLength_eq_zero
      rw [hfront, byteLength_append] at hle
      omega
    subst hnil
    exact ⟨[], by simpa using hfront.symm, by simpa using hrest.symm⟩

end Text

/-! ## The sites that are taken -/

namespace Site

/-- Where the last of some sites ends: at the beginning of the text if there are none. -/
def endOf (taken : List Site) : Nat := (taken.getLast?.map stop).getD 0

@[simp] theorem endOf_nil : endOf [] = 0 := rfl

@[simp] theorem endOf_concat (taken : List Site) (site : Site) :
    endOf (taken ++ [site]) = site.stop := by
  rw [endOf, List.getLast?_concat]
  rfl

/-- Whether a site may be taken after some others were: it does not begin before the last of them
ends, and it marks out a piece of the text. -/
def FitsBehind (t : Text) (taken : List Site) (site : Site) : Prop :=
  endOf taken ≤ site.offset ∧ t.slice? site.offset site.stop ≠ none

instance (t : Text) (taken : List Site) (site : Site) : Decidable (site.FitsBehind t taken) :=
  inferInstanceAs (Decidable (_ ∧ _))

theorem not_fitsBehind_iff {t : Text} {taken : List Site} {site : Site} :
    ¬ site.FitsBehind t taken ↔
      site.offset < endOf taken ∨ t.slice? site.offset site.stop = none := by
  rw [FitsBehind, not_and_or, Nat.not_le, not_ne_iff]

end Site

namespace Interpolation

/-- The sites that are taken once one more has been met. -/
def accept (t : Text) (taken : List Site) (site : Site) : List Site :=
  if site.FitsBehind t taken then taken ++ [site] else taken

/-- The sites that are taken if each is that can be, in the order in which they come. -/
def accepted (t : Text) (sites : List Site) : List Site := sites.foldl (accept t) []

/-- How sites cut a text that begins at a byte offset, if none of them is passed over. What a site
marks out is as long as a token; it need not be one. -/
inductive Scans : Nat → Text → List Site → Interpolation → Prop
  | last {start : Nat} {literal : Text} : Scans start literal [] (ofText literal)
  | site {start : Nat} {literal token rest : Text} {site : Site} {sites : List Site}
      {i : Interpolation} :
      site.offset = start + literal.byteLength →
      site.stop = start + (literal ++ token).byteLength → Scans site.stop rest sites i →
      Scans start (literal ++ (token ++ rest)) (site :: sites)
        (ofText literal ++ .read site.slot :: i)

/-- Scanning what is behind `front`, where the last of the sites ends that are taken already. -/
theorem exists_scans (front rest : Text) {taken : List Site}
    (hend : Site.endOf taken = front.byteLength) (sites : List Site) :
    ∃ more, sites.foldl (accept (front ++ rest)) taken = taken ++ more ∧
      Scans front.byteLength rest more (scanFrom (front ++ rest) front.byteLength sites) := by
  induction sites generalizing front rest taken with
  | nil =>
    refine ⟨[], (List.append_nil _).symm, ?_⟩
    rw [scanFrom, Text.dropBytes?_byteLength_append]
    exact .last
  | cons site sites ih =>
    rw [List.foldl_cons, accept, scanFrom]
    by_cases hfits : site.FitsBehind (front ++ rest) taken
    · have hpass := mt Site.not_fitsBehind_iff.mpr (not_not.mpr hfits)
      rw [if_pos hfits, if_neg (hend ▸ hpass)]
      obtain ⟨hle, hsome⟩ := hfits
      obtain ⟨token, htoken⟩ := Option.ne_none_iff_exists'.mp hsome
      obtain ⟨before, behind, htext, hoffset, hstop⟩ := Text.slice?_eq_some_iff.mp htoken
      rw [hend, ← hoffset] at hle
      rw [List.append_assoc] at htext
      -- Behind `front` stands a literal, up to the site, and then what the site marks out.
      obtain ⟨literal, rfl, rfl⟩ := Text.eq_append_of_byteLength_le htext hle
      have hliteral := Text.slice?_append front literal (token ++ behind)
      have hwhole : front ++ (literal ++ (token ++ behind))
          = front ++ literal ++ token ++ behind := by simp
      have hnext : Site.endOf (taken ++ [site]) = (front ++ literal ++ token).byteLength := by
        rw [Site.endOf_concat, hstop]
      obtain ⟨more, hmore, hscans⟩ := ih (front ++ literal ++ token) behind hnext
      rw [hstop, ← hwhole] at hscans
      rw [List.append_assoc, hoffset] at hliteral
      refine ⟨site :: more, ?_, ?_⟩
      · rw [hwhole, hmore, List.append_assoc]
        rfl
      · rw [hliteral, Option.getD_some]
        refine .site ?_ ?_ hscans
        · rw [← hoffset, Text.byteLength_append]
        · rw [← hstop, List.append_assoc, Text.byteLength_append]
    · rw [if_neg hfits, if_pos (hend ▸ Site.not_fitsBehind_iff.mp hfits)]
      exact ih front rest hend

/-- **The accepted sites cut a text into the pieces that are scanned.** -/
theorem scans_scan (t : Text) (sites : List Site) :
    Scans 0 t (accepted t sites) (scan t sites) := by
  obtain ⟨more, hmore, hscans⟩ := exists_scans [] t Site.endOf_nil sites
  rw [List.nil_append, List.nil_append] at hmore
  rw [accepted, hmore]
  exact hscans

/-! ## What is scanned -/

theorem isCanonical_ofText (t : Text) : (ofText t).IsCanonical := by
  rw [← ofMarkup_ofText]
  exact isCanonical_ofMarkup _

theorem reads_ofText (t : Text) : (ofText t).reads = [] := by
  rw [← ofMarkup_ofText, reads_ofMarkup, Markup.slots_ofText]

theorem symbols_ofText (t : Text) : (ofText t).symbols = Markup.ofText t := by
  rw [← ofMarkup_ofText, symbols_ofMarkup]

/-- The text of some pieces, with given texts in the place of the reads, one after the other. -/
def restore : Interpolation → List Text → Text
  | .literal t :: i, texts => t ++ restore i texts
  | .read _ :: i, text :: texts => text ++ restore i texts
  | _, _ => []

theorem restore_ofText_append (t : Text) (i : Interpolation) (texts : List Text) :
    restore (ofText t ++ i) texts = t ++ restore i texts := by
  rw [ofText]
  split
  · next h => rw [h]; rfl
  · rfl

namespace Scans

variable {start : Nat} {t : Text} {sites : List Site} {i : Interpolation}

theorem isCanonical (h : Scans start t sites i) : i.IsCanonical := by
  induction h with
  | last => exact isCanonical_ofText _
  | site _ _ _ ih =>
    rw [← ih.ofMarkup_symbols, ← ofMarkup_ofText_append]
    exact isCanonical_ofMarkup _

theorem reads_eq (h : Scans start t sites i) : i.reads = sites.map Site.slot := by
  induction h with
  | last => exact reads_ofText _
  | site _ _ _ ih =>
    rw [reads, List.filterMap_append, ← reads, reads_ofText, List.nil_append, List.map_cons, ← ih]
    rfl

/-- What the sites mark out goes in the place of the reads. -/
theorem exists_restore (h : Scans start t sites i) : ∃ slices, i.restore slices = t ∧
    ∀ front : Text, front.byteLength = start →
      sites.map (fun site => (front ++ t).slice? site.offset site.stop) = slices.map some := by
  induction h with
  | @last start literal =>
    refine ⟨[], ?_, fun _ _ => rfl⟩
    have := restore_ofText_append literal [] []
    simpa [restore] using this
  | @site start literal token rest site sites i hoffset hstop _ ih =>
    obtain ⟨slices, hrestore, hslices⟩ := ih
    refine ⟨token :: slices, ?_, ?_⟩
    · rw [restore_ofText_append, restore, hrestore]
    · intro front hfront
      have hwhole : front ++ (literal ++ (token ++ rest))
          = front ++ literal ++ token ++ rest := by simp
      have htoken := Text.slice?_append (front ++ literal) token rest
      rw [Text.byteLength_append, hfront, ← hoffset, List.append_assoc front literal token,
        Text.byteLength_append, hfront, ← hstop, ← List.append_assoc] at htoken
      have hrest := hslices (front ++ literal ++ token) (by
        rw [hstop, List.append_assoc, Text.byteLength_append, hfront])
      rw [List.map_cons, List.map_cons, hwhole, htoken, hrest]

/-- Only white space is left if and only if there was nothing else, and nothing was marked out. -/
theorem forall_isBlankSymbol_iff (h : Scans start t sites i) :
    (∀ x ∈ i.symbols, OpeningTag.isBlankSymbol x = true) ↔
      (∀ c ∈ t, isBlank c = true) ∧ sites = [] := by
  cases h with
  | last =>
    rw [symbols_ofText, Markup.forall_mem_ofText]
    exact (and_iff_left rfl).symm
  | @site _ literal token rest site sites i =>
    refine iff_of_false (fun hblank => ?_) fun hnil => by cases hnil.2
    have hslot := hblank (.slot site.slot) (by rw [symbols_append, symbols_read_cons]; simp)
    cases hslot

end Scans

/-- Scanning loses nothing, whatever the sites. The reads are those of the accepted sites, in
order, no literal is empty or stands next to another, and with the slices of the text that the
accepted sites mark out in the place of the reads the pieces are the text. -/
theorem scan_lossless (t : Text) (sites : List Site) :
    (scan t sites).IsCanonical ∧
      (scan t sites).reads = (accepted t sites).map Site.slot ∧
      ∃ slices, (accepted t sites).map (fun site => t.slice? site.offset site.stop)
          = slices.map some ∧
        (scan t sites).restore slices = t := by
  have hscans := scans_scan t sites
  obtain ⟨slices, hrestore, hslices⟩ := hscans.exists_restore
  exact ⟨hscans.isCanonical, hscans.reads_eq, slices, hslices [] rfl, hrestore⟩

/-! ## Scanning with words -/

/-- Whether a machine stops because the end of one of some sites is too large for a word. -/
def StopsAt (machine : Machine) (sites : List Site) : Prop :=
  machine.checked = true ∧ ∃ site ∈ sites, machine.limit ≤ site.stop

instance (machine : Machine) (sites : List Site) : Decidable (StopsAt machine sites) :=
  inferInstanceAs (Decidable (_ ∧ ∃ site ∈ sites, _))

theorem stopsAt_nil (machine : Machine) : ¬ StopsAt machine [] := by
  simp [StopsAt]

theorem stopsAt_cons {machine : Machine} {site : Site} {sites : List Site} :
    StopsAt machine (site :: sites) ↔
      (machine.checked = true ∧ machine.limit ≤ site.stop) ∨ StopsAt machine sites := by
  simp [StopsAt, and_or_left]

/-- What ends beyond the words is no part of a text that the machine can hold, not even with an end
that has wrapped around. -/
theorem slice?_of_limit_le {machine : Machine} {t : Text} (ht : t.byteLength < machine.capacity)
    {site : Site} (h : machine.limit ≤ site.stop) (stop : Nat) :
    t.slice? site.offset stop = none := by
  rw [Option.eq_none_iff_forall_ne_some]
  intro part hpart
  obtain ⟨front, back, rfl, hfront, -⟩ := Text.slice?_eq_some_iff.mp hpart
  have htoken := site.slot.byteLength_token_le
  have hcapacity := machine.capacity_add_le_limit
  rw [Site.stop] at h
  simp only [Text.byteLength_append] at ht
  omega

/-- What is scanned behind the byte `start` is exact, unless the program is stopped. -/
theorem scanFromOn_eq {machine : Machine} {t : Text} (ht : t.byteLength < machine.capacity)
    {start : Nat} (hstart : start ≤ t.byteLength) (sites : List Site) :
    scanFromOn machine t start sites =
      if StopsAt machine sites then none else some (scanFrom t start sites) := by
  induction sites generalizing start with
  | nil => rw [if_neg (stopsAt_nil machine), scanFromOn, scanFrom]
  | cons site sites ih =>
    have hskip : (site.offset < start ∨ t.slice? site.offset site.stop = none) →
        scanFrom t start (site :: sites) = scanFrom t start sites := by
      intro hpass
      rw [scanFrom, if_pos hpass]
    by_cases hbefore : site.offset < start
    · -- A site that reaches back ends early, so it is passed over before its end is of interest.
      have hstop : ¬ machine.limit ≤ site.stop := by
        have htoken := site.slot.byteLength_token_le
        have hcapacity := machine.capacity_add_le_limit
        rw [Site.stop]
        omega
      rw [hskip (.inl hbefore), scanFromOn, if_pos hbefore, ih hstart]
      simp only [stopsAt_cons, hstop, and_false, false_or]
    rw [scanFromOn, if_neg hbefore]
    by_cases hlimit : machine.limit ≤ site.stop
    · have hslice := slice?_of_limit_le ht hlimit
      have hadd : site.stopOn? machine =
          if machine.checked then none else some (site.stop % machine.limit) :=
        if_neg (Nat.not_lt.mpr hlimit)
      rw [hskip (.inr (hslice _)), hadd]
      cases hchecked : machine.checked with
      | true =>
        rw [if_pos (stopsAt_cons.mpr (.inl ⟨hchecked, hlimit⟩))]
        rfl
      | false =>
        have hnot : ∀ sites, ¬ StopsAt machine sites := fun _ h => by simp [StopsAt, hchecked] at h
        simp [hslice, ih hstart, hnot]
    · have hexact : site.stopOn? machine = some site.stop :=
        Machine.add?_of_lt (Nat.not_le.mp hlimit)
      simp only [hexact, stopsAt_cons, hlimit, and_false, false_or, Option.bind_eq_bind,
        Option.bind_some]
      split
      · next hslice => rw [hskip (.inr hslice), ih hstart]
      · next hslice =>
        obtain ⟨token, htoken⟩ := Option.ne_none_iff_exists'.mp hslice
        obtain ⟨front, back, htext, -, hstop⟩ := Text.slice?_eq_some_iff.mp htoken
        have hle : site.stop ≤ t.byteLength := by
          rw [← hstop, htext, Text.byteLength_append (front ++ token)]
          exact Nat.le_add_right _ _
        rw [ih hle, scanFrom, if_neg (not_or.mpr ⟨hbefore, hslice⟩)]
        by_cases hstops : StopsAt machine sites
        · rw [if_pos hstops, if_pos hstops]
          rfl
        · rw [if_neg hstops, if_neg hstops]
          rfl

/-- **A machine scans exactly, or stops** at the end of a site that is too large for a word. -/
theorem scanOn_eq {machine : Machine} {t : Text} (ht : t.byteLength < machine.capacity)
    (sites : List Site) :
    scanOn machine t sites = if StopsAt machine sites then none else some (scan t sites) :=
  scanFromOn_eq ht (Nat.zero_le _) sites

/-- The sites of markup end in its text, so that no machine that can hold the text stops at them. -/
theorem scanOn_sites {machine : Machine} {m : Markup}
    (hm : m.text.byteLength < machine.capacity) :
    scanOn machine m.text m.sites = some (ofMarkup m) := by
  have hstops : ¬ StopsAt machine m.sites := by
    rintro ⟨-, site, hsite, hlimit⟩
    have hstop := Markup.stop_le_of_mem_sitesFrom hsite
    have hcapacity := machine.capacity_add_le_limit
    rw [Markup.byteLength_text] at hm
    omega
  rw [scanOn_eq hm, if_neg hstops, scan_sites]

/-- **Scanning loses nothing**, whatever the sites, on any machine that can hold the text. The
program is stopped if and only if the machine stops at sums that are too large and the end of a site
is one. Otherwise the reads are those of the accepted sites, in order, no literal is empty or stands
next to another, and with the slices of the text that the accepted sites mark out in the place of
the reads the pieces are the text. -/
theorem scanOn_lossless {machine : Machine} {t : Text} (ht : t.byteLength < machine.capacity)
    (sites : List Site) :
    (scanOn machine t sites = none ↔ StopsAt machine sites) ∧
      ∀ i, scanOn machine t sites = some i →
        i.IsCanonical ∧
          i.reads = (accepted t sites).map Site.slot ∧
          ∃ slices, (accepted t sites).map (fun site => t.slice? site.offset site.stop)
              = slices.map some ∧
            i.restore slices = t := by
  rw [scanOn_eq ht]
  split
  · next hstops => exact ⟨iff_of_true rfl hstops, fun _ h => by cases h⟩
  · next hstops =>
    refine ⟨iff_of_false (Option.some_ne_none _) hstops, ?_⟩
    rintro i ⟨⟩
    exact scan_lossless t sites

/-- A site that cuts a character in two, one that overlaps the site before it, one that reaches back
and one beyond the end are passed over. With another one at the end of all words the program is
stopped. -/
theorem scanOn_lossless_out_of_range :
    let machine : Machine := ⟨64, by decide, true⟩
    let slot : Slot := ⟨1, by decide, by decide⟩
    let t := txt "é$1 or $1!"
    let sites := [1, 2, 3, 8, 2, 12].map fun offset => Site.mk offset slot
    t.byteLength < machine.capacity ∧
      (∃ i slices, scanOn machine t sites = some i ∧ i.reads = [slot, slot] ∧
        i.restore slices = t) ∧
      scanOn machine t (sites ++ [⟨machine.limit - 1, slot⟩]) = none := by
  intro machine slot t sites
  have ht : t.byteLength < machine.capacity := by decide +kernel
  refine ⟨ht, ?_, ?_⟩
  · obtain ⟨hstops, hscan⟩ := scanOn_lossless ht sites
    have hsome : scanOn machine t sites ≠ none := mt hstops.mp (by decide +kernel)
    obtain ⟨i, hi⟩ := Option.ne_none_iff_exists'.mp hsome
    obtain ⟨-, hreads, slices, -, hrestore⟩ := hscan i hi
    have haccepted : (accepted t sites).map Site.slot = [slot, slot] := by decide +kernel
    exact ⟨i, slices, hi, hreads.trans haccepted, hrestore⟩
  · exact (scanOn_lossless ht _).1.mpr (by decide +kernel)

/-! ## Trimming what is scanned -/

/-- The pieces of a text without a piece to spare are trimmed as its symbols are. -/
theorem IsCanonical.symbols_normalized {i : Interpolation} (h : i.IsCanonical) :
    i.normalized.symbols = i.symbols.normalized := by
  rw [← Interpolation.symbols_normalized, h.ofMarkup_symbols]

theorem IsCanonical.normalized {i : Interpolation} (h : i.IsCanonical) :
    i.normalized.IsCanonical := h.apart.isCanonical_normalized

/-- Nothing is left of white space, and of nothing else. -/
theorem IsCanonical.normalized_eq_nil_iff {i : Interpolation} (h : i.IsCanonical) :
    i.normalized = [] ↔ ∀ x ∈ i.symbols, OpeningTag.isBlankSymbol x = true := by
  have hrun := Run.isBlank_iff_text (r := ⟨0, i.symbols⟩)
  rw [Run.isBlank_iff_forall, Run.text, h.ofMarkup_symbols] at hrun
  exact hrun.symm

/-- What is trimmed stays as it is. -/
theorem IsCanonical.normalized_normalized {i : Interpolation} (h : i.IsCanonical) :
    i.normalized.normalized = i.normalized := by
  rw [← h.normalized.normalized.ofMarkup_symbols, h.normalized.symbols_normalized,
    h.symbols_normalized, Markup.normalized_normalized, ← h.symbols_normalized,
    h.normalized.ofMarkup_symbols]

theorem scan_nil (t : Text) : scan t [] = ofText t := by
  rw [scan, scanFrom, Text.dropBytes?_zero, Option.getD_some]

theorem normalized_scan (t : Text) (sites : List Site) :
    (scan t sites).normalized.symbols = (scan t sites).symbols.normalized ∧
      (scan t sites).normalized.IsCanonical ∧
      ((scan t sites).normalized = [] ↔ (∀ c ∈ t, isBlank c = true) ∧ accepted t sites = []) ∧
      ∃ u, (scan t []).normalized.literal? = some u ∧
        (scan u []).normalized = (scan t []).normalized := by
  have hscans := scans_scan t sites
  have hcanonical := hscans.isCanonical
  refine ⟨hcanonical.symbols_normalized, hcanonical.normalized, ?_, ?_⟩
  · rw [hcanonical.normalized_eq_nil_iff, hscans.forall_isBlankSymbol_iff]
  · rw [scan_nil]
    have htext := isCanonical_ofText t
    have hstatic : (ofText t).normalized.isStatic = true := by
      rw [isStatic, reads_normalized, reads_ofText]
      rfl
    refine ⟨_, literal?_of_isStatic hstatic, ?_⟩
    rw [scan_nil, htext.normalized.ofText_literalText hstatic, htext.normalized_normalized]

/-- **Running text is trimmed as a sequence of symbols**, whatever sites it is scanned with, on any
machine that can hold it. The program is stopped where scanning is. Otherwise what is left are the
symbols of the pieces without line breaks, and without the white space in front of the first and
behind the last symbol that is none; a read is none. No piece of it is to spare. Nothing is left if
and only if the text is blank and no site was accepted. If there are no sites, then what is left is
a text, and stays as it is when it is trimmed again. -/
theorem normalizedOn_trims {machine : Machine} {t : Text} (ht : t.byteLength < machine.capacity)
    (sites : List Site) :
    (normalizedOn machine t sites = none ↔ StopsAt machine sites) ∧
      (∀ i, normalizedOn machine t sites = some i →
        ∃ pieces, scanOn machine t sites = some pieces ∧ i.symbols = pieces.symbols.normalized ∧
          i.IsCanonical ∧
          (i = [] ↔ (∀ c ∈ t, isBlank c = true) ∧ accepted t sites = [])) ∧
      ∃ i u, normalizedOn machine t [] = some i ∧ i.literal? = some u ∧
        normalizedOn machine u [] = some i := by
  have hscan := scanOn_eq ht sites
  refine ⟨?_, ?_, ?_⟩
  · rw [normalizedOn, Option.map_eq_none_iff, hscan]
    split
    · next hstops => exact iff_of_true rfl hstops
    · next hstops => exact iff_of_false (Option.some_ne_none _) hstops
  · intro i hi
    obtain ⟨pieces, hpieces, rfl⟩ := Option.map_eq_some_iff.mp hi
    refine ⟨pieces, hpieces, ?_⟩
    rw [hscan] at hpieces
    split at hpieces
    · cases hpieces
    · cases hpieces
      obtain ⟨hsymbols, hcanonical, hnil, -⟩ := normalized_scan t sites
      exact ⟨hsymbols, hcanonical, hnil⟩
  · obtain ⟨-, -, -, u, hu, hagain⟩ := normalized_scan t []
    exact ⟨_, u, rfl, hu, congrArg some hagain⟩

/-- Line breaks and the white space around the first and the last symbol are dropped, and a site
beyond the end is passed over. -/
theorem normalizedOn_trims_reads :
    let machine : Machine := ⟨32, by decide, true⟩
    let slot : Slot := ⟨1, by decide, by decide⟩
    let t := txt " \n $1 of\r\n $1 \n"
    let sites := [3, 11, 40].map fun offset => Site.mk offset slot
    t.byteLength < machine.capacity ∧
      ∃ i, normalizedOn machine t sites = some i ∧ i.IsCanonical ∧
        i.symbols = [.slot slot, .char ' ', .char 'o', .char 'f', .char ' ', .slot slot] := by
  intro machine slot t sites
  have ht : t.byteLength < machine.capacity := by decide +kernel
  obtain ⟨hstops, hnormalized, -⟩ := normalizedOn_trims ht sites
  have hsome : normalizedOn machine t sites ≠ none := mt hstops.mp (by decide +kernel)
  obtain ⟨i, hi⟩ := Option.ne_none_iff_exists'.mp hsome
  obtain ⟨pieces, hpieces, hsymbols, hcanonical, -⟩ := hnormalized i hi
  have hscan : scanOn machine t sites = some [.literal (txt " \n "), .read slot,
      .literal (txt " of\r\n "), .read slot, .literal (txt " \n")] := by decide +kernel
  obtain rfl := Option.some.inj (hpieces.symm.trans hscan)
  have htrimmed : Markup.normalized (symbols [.literal (txt " \n "), .read slot,
      .literal (txt " of\r\n "), .read slot, .literal (txt " \n")])
        = [.slot slot, .char ' ', .char 'o', .char 'f', .char ' ', .slot slot] := by decide +kernel
  exact ⟨ht, i, hi, hcanonical, hsymbols.trans htrimmed⟩

end Interpolation

end MarkupTemplate
