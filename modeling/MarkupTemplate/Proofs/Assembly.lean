import MarkupTemplate.Proofs.Identity

/-!
# Assembled markup and its fragments

    fragments ──assemble──▶ markup ──text, sites──▶ stretches of text and reads

Others see markup as a text together with the sites of its tokens. The text alone does not tell what
it was assembled from: a fragment may look like a token, end in the middle of one, or go on with
digits where one ends. The sites do tell: `scan_sites` says that the text cut at its sites has the
pieces of the markup, for any markup. `assemble_shows` says what this means for fragments. Whatever
they are, the sites mark out the tokens of all slots in order, and leave just the fragments.
-/

namespace MarkupTemplate

namespace Interpolation

/-- Literal texts with a read behind each of them, as long as there are slots. -/
def alternate : List Text → List Slot → Interpolation
  | t :: texts, s :: slots => .literal t :: .read s :: alternate texts slots
  | texts, _ => texts.map .literal

end Interpolation

namespace Markup

/-- What the sites of a text leave of it from the byte `start` on: a stretch before each of them,
and one behind the last. -/
def gapsFrom (t : Text) : Nat → List Site → List (Option Text)
  | start, [] => [t.dropBytes? start]
  | start, site :: sites => t.slice? start site.offset :: gapsFrom t site.stop sites

/-- What the text of markup has between its tokens. -/
def gaps (m : Markup) : List (Option Text) := gapsFrom m.text 0 m.sites

/-- What text and sites of markup that is assembled from fragments have to show of them. -/
structure Shows (m : Markup) (fragments : List Text) : Prop where
  /-- There is a slot behind every fragment but the last, numbered in order. -/
  numbers : m.sites.map (·.slot.number) = List.range' 1 (fragments.length - 1)
  increasing : m.sites.Pairwise fun s t => s.offset < t.offset
  apart : m.sites.Pairwise fun s t => s.stop ≤ t.offset
  tokens : ∀ site ∈ m.sites, m.text.slice? site.offset site.stop = some site.slot.token
  /-- Fragments that are empty leave no piece. -/
  pieces : Interpolation.scan m.text m.sites =
    (Interpolation.alternate fragments (m.sites.map Site.slot)).filter (!·.isEmpty)
  gaps : m.gaps = fragments.map some

/-! ## Interleaved fragments -/

variable {index : Nat}

/-- Behind a fragment that is not the last there is a slot, if the pool has it. -/
theorem exists_interleave_cons (h : index < poolSize) (fragment next : Text)
    (fragments : List Text) :
    ∃ s : Slot, s.number = index + 1 ∧ interleave index (fragment :: next :: fragments)
      = ofText fragment ++ .slot s :: interleave (index + 1) (next :: fragments) := by
  have hslot : Slot.ofIndex? index = some ⟨index + 1, by omega, by omega⟩ := by
    rw [Slot.ofIndex?, Slot.ofNumber?, dif_pos (by omega)]
  refine ⟨⟨index + 1, by omega, by omega⟩, rfl, ?_⟩
  rw [interleave, hslot, Option.map_some, Option.toList_some, List.append_assoc]
  · rfl
  · intro h
    cases h

theorem numbers_interleave (fragment : Text) (fragments : List Text)
    (h : index + fragments.length ≤ poolSize) :
    (interleave index (fragment :: fragments)).slots.map Slot.number
      = List.range' (index + 1) fragments.length := by
  induction fragments generalizing fragment index with
  | nil =>
    rw [interleave, slots_ofText]
    rfl
  | cons next fragments ih =>
    rw [List.length_cons] at h
    have hindex : index < poolSize := by omega
    obtain ⟨s, hs, hcons⟩ := exists_interleave_cons hindex fragment next fragments
    rw [hcons, slots_append, slots_ofText, slots_slot_cons, List.nil_append, List.map_cons, hs,
      ih next (by omega), List.length_cons, List.range'_succ]

/-- The pieces of interleaved fragments are the fragments and the slots by turns. -/
theorem ofMarkup_interleave (fragment : Text) (fragments : List Text)
    (h : index + fragments.length ≤ poolSize) :
    Interpolation.ofMarkup (interleave index (fragment :: fragments))
      = (Interpolation.alternate (fragment :: fragments)
          (interleave index (fragment :: fragments)).slots).filter (!·.isEmpty) := by
  have hliteral : ∀ (t : Text) (i : Interpolation),
      Interpolation.ofText t ++ i.filter (!·.isEmpty) = (.literal t :: i).filter (!·.isEmpty) := by
    intro t i
    cases t <;> rfl
  induction fragments generalizing fragment index with
  | nil =>
    rw [interleave, slots_ofText, Interpolation.ofMarkup_ofText]
    exact (List.append_nil _).symm.trans (hliteral fragment [])
  | cons next fragments ih =>
    rw [List.length_cons] at h
    have hindex : index < poolSize := by omega
    obtain ⟨s, -, hcons⟩ := exists_interleave_cons hindex fragment next fragments
    rw [hcons, slots_append, slots_ofText, slots_slot_cons, List.nil_append,
      Interpolation.ofMarkup_ofText_append, ih next (by omega), Interpolation.alternate,
      ← hliteral]
    rfl

/-- The sites of interleaved fragments leave the fragments, whatever stands before them. -/
theorem gapsFrom_interleave (front fragment : Text) (fragments : List Text)
    (h : index + fragments.length ≤ poolSize) :
    gapsFrom (front ++ (interleave index (fragment :: fragments)).text) front.byteLength
        (sitesFrom front.byteLength (interleave index (fragment :: fragments)))
      = (fragment :: fragments).map some := by
  induction fragments generalizing front fragment index with
  | nil =>
    rw [interleave, text_ofText, sitesFrom_ofText, gapsFrom, Text.dropBytes?_byteLength_append]
    rfl
  | cons next fragments ih =>
    rw [List.length_cons] at h
    have hindex : index < poolSize := by omega
    obtain ⟨s, -, hcons⟩ := exists_interleave_cons hindex fragment next fragments
    have hoffset : front.byteLength + byteLength (ofText fragment)
        = (front ++ fragment).byteLength := by
      rw [← byteLength_text, text_ofText, Text.byteLength_append]
    have hstop : (front ++ fragment).byteLength + s.token.byteLength
        = (front ++ fragment ++ s.token).byteLength := (Text.byteLength_append _ _).symm
    have hrest := ih (front ++ fragment ++ s.token) next
      (show index + 1 + fragments.length ≤ poolSize by omega)
    have hgap := Text.slice?_append front fragment
      (s.token ++ (interleave (index + 1) (next :: fragments)).text)
    rw [← List.append_assoc] at hgap
    rw [hcons, sitesFrom_append, sitesFrom_ofText, List.nil_append, sitesFrom, hoffset, gapsFrom,
      Site.stop, hstop, text_append, text_ofText, text_cons, Symbol.text, ← List.append_assoc,
      ← List.append_assoc, hgap, hrest]
    rfl

/-! ## Assembled markup -/

/-- **Assembling is undone by the sites.** If there is one fragment more than values, and the pool
has slots for the values, then the fragments are assembled to markup whose text and sites show them
all. Otherwise nothing is assembled, and the fault is about the numbers of fragments and values. -/
theorem assemble_shows (fragments : List Text) (values : Nat) :
    (values ≤ poolSize → fragments.length = values + 1 →
      ∃ m, assemble fragments values = .ok m ∧ m.Shows fragments) ∧
    (¬ (values ≤ poolSize ∧ fragments.length = values + 1) →
      ∃ cause, assemble fragments values = .error cause ∧ cause.kind = .arity) := by
  constructor
  · intro hvalues hlength
    have hassemble : assemble fragments values = .ok (interleave 0 fragments) := by
      rw [assemble, if_neg (by omega), if_neg (by omega)]
    refine ⟨interleave 0 fragments, hassemble, ?_⟩
    cases fragments with
    | nil => cases hlength
    | cons fragment fragments =>
      have hsize : 0 + fragments.length ≤ poolSize := by
        rw [List.length_cons] at hlength
        omega
      have hslots := map_slot_sitesFrom (interleave 0 (fragment :: fragments)) 0
      have hapart := pairwise_sitesFrom 0 (interleave 0 (fragment :: fragments))
      refine ⟨?_, hapart.imp ?_, hapart, ?_, ?_, ?_⟩
      · show (sitesFrom 0 _).map (Slot.number ∘ Site.slot) = _
        rw [← List.map_map, hslots, numbers_interleave fragment fragments hsize]
        rfl
      · intro s t hst
        have := s.offset_lt_stop
        omega
      · intro site hsite
        exact slice?_of_mem_sitesFrom [] hsite
      · rw [Interpolation.scan_sites, ofMarkup_interleave fragment fragments hsize]
        exact congrArg (fun slots => (Interpolation.alternate _ slots).filter (!·.isEmpty))
          hslots.symm
      · exact gapsFrom_interleave [] fragment fragments hsize
  · intro h
    by_cases hvalues : poolSize < values
    · exact ⟨.tooManyValues values, if_pos hvalues, rfl⟩
    · refine ⟨.fragmentMismatch fragments.length values, ?_, rfl⟩
      rw [assemble, if_neg hvalues, if_pos]
      intro hlength
      exact h ⟨by omega, hlength⟩

/-- Fragments that look like a token, go on with digits behind one and end with half of one, and too
few fragments. -/
theorem assemble_shows_lookalike :
    2 ≤ poolSize ∧ [txt "$1", txt "0é$", []].length = 2 + 1 ∧
      (∃ m, assemble [txt "$1", txt "0é$", []] 2 = .ok m ∧
        m.Shows [txt "$1", txt "0é$", []]) ∧
      ¬ (2 ≤ poolSize ∧ [txt "$1", txt "$2"].length = 2 + 1) ∧
      ∃ cause, assemble [txt "$1", txt "$2"] 2 = .error cause ∧ cause.kind = .arity := by
  have hfew : ¬ (2 ≤ poolSize ∧ [txt "$1", txt "$2"].length = 2 + 1) := by decide
  exact ⟨by decide, rfl, (assemble_shows [txt "$1", txt "0é$", []] 2).1 (by decide) rfl, hfew,
    (assemble_shows [txt "$1", txt "$2"] 2).2 hfew⟩

example : (interleave 0 [txt "$1", txt "0é$", []]).text = txt "$1$10é$$2" ∧
    (interleave 0 [txt "$1", txt "0é$", []]).sites.map Site.offset = [2, 8] := by
  decide

end Markup

end MarkupTemplate
