import MarkupTemplate.Proofs.Overwriting
import MarkupTemplate.Proofs.Uses
import MarkupTemplate.Proofs.Weaving

/-!
# No value is lost, read twice or made up

    fragments ──assemble──▶ $1 … $n ──cut──▶ lexemes ──build──▶ tree
                                               │
                                               └── what they keep ~ the slots of the tree

Assembled markup has the slot of each value once. Every lexeme of it *keeps* some of its slots for
the tree: a run keeps them all, or only the first that is bound to a list, and an opening tag those
that survive in it. `IsDocument.slots_perm` says that the tree uses what its lexemes keep, and
nothing else.

So `Tree.count_slots_of_ofMarkup`: every slot has one use, unless its lexeme `Loses` it.
-/

namespace MarkupTemplate

variable {dialect : Dialect} {shapes : List Shape}

/-- Assembled markup has each slot once. -/
theorem Markup.nodup_slots_of_assemble {fragments : List Text} {n : Nat} {m : Markup}
    (h : assemble fragments n = .ok m) : m.slots.Nodup := by
  rw [slots_of_assemble h]
  refine List.Nodup.filterMap ?_ List.nodup_range'
  intro i j slot hi hj
  exact (Slot.ofIndex?_eq_some_iff.mp hi).symm.trans (Slot.ofIndex?_eq_some_iff.mp hj)

/-! ## The slots of a tree -/

/-- The slot that is used. -/
def Use.slot : Use → Slot
  | read slot => slot
  | splice slot => slot

namespace Tree

/-- The slots that are used in a tree, as often as they are used. -/
def slots (tree : Tree) : List Slot := tree.uses.map Use.slot

/-- The slots that are used among children. -/
def slotsOf (children : List (Child Tree Slot)) : List Slot := (usesOf children).map Use.slot

/-- The slots that are used in a head. -/
def headSlots (head : Head Span Interpolation) : List Slot := (headUses head).map Use.slot

end Tree

theorem Interpolation.map_slot_uses (i : Interpolation) : i.uses.map Use.slot = i.reads := by
  rw [uses, List.map_map]
  exact List.map_id _

namespace Tree

@[simp] theorem slots_text (head : Head Span Interpolation) (body : Interpolation) :
    slots (.mk head (.text body)) = headSlots head ++ body.reads := by
  rw [slots, uses, List.map_append, Interpolation.map_slot_uses, headSlots]

@[simp] theorem slots_nodes (head : Head Span Interpolation) (children : List (Child Tree Slot)) :
    slots (.mk head (.nodes children)) = headSlots head ++ slotsOf children := by
  rw [slots, uses, List.map_append, slotsOf, headSlots]

@[simp] theorem slotsOf_nil : slotsOf [] = [] := rfl

@[simp] theorem slotsOf_element (e : Tree) (rest : List (Child Tree Slot)) :
    slotsOf (.element e :: rest) = e.slots ++ slotsOf rest := by
  rw [slotsOf, usesOf, List.map_append, slots, slotsOf]

@[simp] theorem slotsOf_splice (slot : Slot) (rest : List (Child Tree Slot)) :
    slotsOf (.splice slot :: rest) = slot :: slotsOf rest := by
  rw [slotsOf, usesOf, List.map_cons, slotsOf, Use.slot]

/-- The slots of a head are those of the values that the tag assigns. -/
theorem headSlots_head (opening : OpeningTag) (span : Span) :
    headSlots (opening.head span) = opening.assigned.flatMap fun a => a.2.reads := by
  obtain ⟨name, attributes, key⟩ := opening
  rw [headSlots, headUses, List.map_append, entryUses, List.map_flatMap, OpeningTag.assigned,
    List.flatMap_append, List.flatMap_map]
  cases key <;> simp [OpeningTag.head, Interpolation.map_slot_uses]

end Tree

/-! ## What a lexeme keeps -/

namespace Lexeme

/-- The slots of a run, or of the content of a tag. -/
def slots (x : Lexeme) : List Slot := x.symbols.slots

/-- The slots that a lexeme leaves to the tree. -/
def kept (shapes : List Shape) : Lexeme → List Slot
  | run r =>
    match r.list? shapes with
    | some slot => [slot]
    | none => r.slots
  | tag t =>
    if t.closing? = none then
      OpeningTag.settingSlots (OpeningTag.surviving (OpeningTag.written t.content))
    else []

/-- How a slot of a lexeme gets lost. -/
inductive Loses (shapes : List Shape) (slot : Slot) : Lexeme → Prop
  /-- It stands in an attribute that a later one of the tag overwrites. -/
  | overwritten {t : Tag} :
      t.closing? = none → OpeningTag.Overwritten slot (OpeningTag.written t.content) →
      Loses shapes slot (.tag t)
  /-- It stands in a run that is a splice of another slot. -/
  | spliced {r : Run} {first : Slot} :
      r.list? shapes = some first → slot ∈ r.slots → slot ≠ first → Loses shapes slot (.run r)

/-- Whether a lexeme can be part of a document. A closing tag in it has no slots. -/
inductive IsProper [Alphabet] : Lexeme → Prop
  | run (r : Run) : IsProper (.run r)
  | opening {t : Tag} {opening : OpeningTag} {closed : Bool} :
      t.Opens opening closed → IsProper (.tag t)
  | closing {t : Tag} {name : Text} :
      t.closing? = some name → t.content.slots = [] → IsProper (.tag t)

theorem kept_of_list? {r : Run} {slot : Slot} (h : r.list? shapes = some slot) :
    kept shapes (.run r) = [slot] := by
  simp only [kept, h]

theorem kept_of_list?_eq_none {r : Run} (h : r.list? shapes = none) :
    kept shapes (.run r) = r.slots := by
  simp only [kept, h]

theorem kept_of_opens [Alphabet] {t : Tag} {opening : OpeningTag} {closed : Bool}
    (h : t.Opens opening closed) : kept shapes (.tag t) =
      OpeningTag.settingSlots (OpeningTag.surviving (OpeningTag.written t.content)) :=
  if_pos h.1

theorem kept_of_closing? {t : Tag} {name : Text} (h : t.closing? = some name) :
    kept shapes (.tag t) = [] :=
  if_neg (by simp [h])

variable [Alphabet]

/-- A lexeme keeps some of its slots. -/
theorem IsProper.kept_sublist {x : Lexeme} (h : x.IsProper) :
    (x.kept shapes).Sublist x.slots := by
  cases h with
  | run r =>
    cases hlist : r.list? shapes with
    | none =>
      rw [kept_of_list?_eq_none hlist]
      exact .refl _
    | some slot =>
      rw [kept_of_list? hlist, List.singleton_sublist]
      exact List.mem_of_find?_eq_some hlist
  | @opening t _ _ hopens =>
    have hslots := (OpeningTag.read_eq_ok_iff.mp hopens.2).eq_ofSettings.2
    rw [kept_of_opens hopens, slots, symbols, ← hslots]
    exact (OpeningTag.surviving_sublist _).flatMap _
  | closing hclosing =>
    rw [kept_of_closing? hclosing]
    exact List.nil_sublist _

/-- A slot that stands once in a lexeme is lost if and only if it is not kept. -/
theorem IsProper.loses_iff {x : Lexeme} (h : x.IsProper) (hnodup : x.slots.Nodup) {slot : Slot} :
    x.Loses shapes slot ↔ slot ∈ x.slots ∧ slot ∉ x.kept shapes := by
  cases h with
  | run r =>
    cases hlist : r.list? shapes with
    | none =>
      rw [kept_of_list?_eq_none hlist]
      constructor
      · intro h
        cases h with
        | spliced hfirst => simp [hlist] at hfirst
      · rintro ⟨hslot, hnot⟩
        exact absurd hslot hnot
    | some first =>
      rw [kept_of_list? hlist, List.mem_singleton]
      constructor
      · intro h
        cases h with
        | spliced hfirst hslot hne =>
          obtain rfl := Option.some.inj (hlist.symm.trans hfirst)
          exact ⟨hslot, hne⟩
      · rintro ⟨hslot, hne⟩
        exact .spliced hlist hslot hne
  | @opening t _ _ hopens =>
    have hslots := (OpeningTag.read_eq_ok_iff.mp hopens.2).eq_ofSettings.2
    rw [slots, symbols, ← hslots] at hnodup ⊢
    rw [kept_of_opens hopens, ← OpeningTag.overwritten_iff hnodup]
    constructor
    · intro h
      cases h with
      | overwritten _ h => exact h
    · exact .overwritten hopens.1
  | closing hclosing hslots =>
    constructor
    · intro h
      cases h with
      | overwritten hopening => simp [hclosing] at hopening
    · rintro ⟨hslot, -⟩
      rw [slots, symbols, hslots] at hslot
      cases hslot

end Lexeme

/-- The slots of markup are those of its lexemes. -/
theorem Cuts.slots_eq {start : Nat} {m : Markup} {l : List Lexeme} (h : Cuts start m l) :
    m.slots = l.flatMap Lexeme.slots := by
  induction h with
  | last => simp [Lexeme.slots, Lexeme.symbols]
  | tag _ _ _ ih => simp [Lexeme.slots, Lexeme.symbols, ih]

/-! ## The lexemes of a document -/

section

variable [Alphabet]

mutual
theorem IsElement.isProper {l : List Lexeme} {e : Tree} :
    IsElement .standard shapes l e → ∀ x ∈ l, x.IsProper
  | .complete ho _ => List.forall_mem_singleton.mpr (.opening ho)
  | .enclosing ho _ hcontent hc => by
    refine List.forall_mem_cons.mpr ⟨.opening ho, List.forall_mem_append.mpr ⟨?_, ?_⟩⟩
    · exact hcontent.isProper
    · have hslots := Tag.slots_of_closing? hc ho.sigil_notMem_name
      exact List.forall_mem_singleton.mpr (.closing hc hslots)

theorem IsContent.isProper {l : List Lexeme} {content : Content Interpolation (Child Tree Slot)} :
    IsContent .standard shapes l content → ∀ x ∈ l, x.IsProper
  | .children hchildren => hchildren.isProper
  | .text hchildren _ _ =>
    List.forall_mem_append.mpr ⟨hchildren.isProper, List.forall_mem_singleton.mpr (.run _)⟩

theorem IsChildren.isProper {l : List Lexeme} {children : List (Child Tree Slot)} :
    IsChildren .standard shapes l children → ∀ x ∈ l, x.IsProper
  | .nil => by simp
  | .element he hrest => List.forall_mem_append.mpr ⟨he.isProper, hrest.isProper⟩
  | .void ht hv hrest => by
    have hslots := Tag.slots_of_closing? ht (Dialect.sigil_notMem_of_isVoid hv)
    exact List.forall_mem_cons.mpr ⟨.closing ht hslots, hrest.isProper⟩
  | .blank _ hrest => List.forall_mem_cons.mpr ⟨.run _, hrest.isProper⟩
  | .splice _ hrest => List.forall_mem_cons.mpr ⟨.run _, hrest.isProper⟩
end

theorem IsMargin.isProper {l : List Lexeme} (h : IsMargin .standard l) : ∀ x ∈ l, x.IsProper := by
  induction h with
  | nil => simp
  | blank _ _ ih => exact List.forall_mem_cons.mpr ⟨.run _, ih⟩
  | void ht hv _ ih =>
    have hslots := Tag.slots_of_closing? ht (Dialect.sigil_notMem_of_isVoid hv)
    exact List.forall_mem_cons.mpr ⟨.closing ht hslots, ih⟩

theorem IsDocument.isProper {l : List Lexeme} {root : Tree}
    (h : IsDocument .standard shapes l root) : ∀ x ∈ l, x.IsProper := by
  cases h with
  | mk hbefore he hafter =>
    exact List.forall_mem_append.mpr ⟨hbefore.isProper,
      List.forall_mem_append.mpr ⟨he.isProper, hafter.isProper⟩⟩

end

/-! ## The tree uses what its lexemes keep -/

theorem Lexeme.kept_of_isBlank {r : Run} (h : r.isBlank = true) : kept shapes (.run r) = [] := by
  have hslots := Run.slots_of_isBlank h
  rw [kept_of_list?_eq_none, hslots]
  rw [Run.list?, hslots, List.find?_nil]

section

variable [Alphabet]

/-- An opening tag uses what survives in it. -/
theorem Tag.Opens.slots_perm {t : Tag} {opening : OpeningTag} {closed : Bool}
    (h : t.Opens opening closed) :
    (Tree.headSlots (opening.head t.span)).Perm (Lexeme.kept shapes (.tag t)) := by
  have htag := (OpeningTag.read_eq_ok_iff.mp h.2).eq_ofSettings.1
  have hassigned :=
    OpeningTag.assigned_ofSettings opening.name (OpeningTag.written t.content)
  rw [← htag] at hassigned
  rw [Tree.headSlots_head, Lexeme.kept_of_opens h]
  refine (hassigned.flatMap_right _).trans (.of_eq ?_)
  rw [List.flatMap_map]
  simp only [OpeningTag.assignment, Interpolation.reads_ofMarkup, OpeningTag.settingSlots]

mutual
theorem IsElement.slots_perm {l : List Lexeme} {e : Tree} :
    IsElement dialect shapes l e → e.slots.Perm (l.flatMap (Lexeme.kept shapes))
  | .complete ho _ => by
    simpa using ho.slots_perm
  | .enclosing ho _ (.children hchildren) hc => by
    simpa [Lexeme.kept_of_closing? hc] using ho.slots_perm.append hchildren.slots_perm
  | .enclosing ho _ (.text hchildren _ hlist) hc => by
    -- What comes before the text comes to nothing, so it keeps nothing.
    have hbefore := List.nil_perm.mp hchildren.slots_perm
    simp only [Tree.slots_text, Run.reads_text, List.flatMap_cons, List.flatMap_append, hbefore,
      Lexeme.kept_of_list?_eq_none hlist, Lexeme.kept_of_closing? hc, List.flatMap_nil,
      List.append_nil, List.nil_append]
    exact ho.slots_perm.append_right _

theorem IsChildren.slots_perm {l : List Lexeme} {children : List (Child Tree Slot)} :
    IsChildren dialect shapes l children →
      (Tree.slotsOf children).Perm (l.flatMap (Lexeme.kept shapes))
  | .nil => .nil
  | .element he hrest => by
    simpa using he.slots_perm.append hrest.slots_perm
  | .void ht _ hrest => by
    simpa [Lexeme.kept_of_closing? ht] using hrest.slots_perm
  | .blank hr hrest => by
    simpa [Lexeme.kept_of_isBlank hr] using hrest.slots_perm
  | .splice hs hrest => by
    rw [Tree.slotsOf_splice, List.flatMap_cons, Lexeme.kept_of_list? hs]
    exact hrest.slots_perm.cons _
end

end

theorem IsMargin.kept_eq_nil {l : List Lexeme} (h : IsMargin dialect l) :
    l.flatMap (Lexeme.kept shapes) = [] := by
  induction h with
  | nil => rfl
  | blank hr _ ih => rw [List.flatMap_cons, Lexeme.kept_of_isBlank hr, ih, List.append_nil]
  | void ht _ _ ih => rw [List.flatMap_cons, Lexeme.kept_of_closing? ht, ih, List.append_nil]

/-- **The tree of a document uses what its lexemes keep**, in some order. -/
theorem IsDocument.slots_perm [Alphabet] {l : List Lexeme} {root : Tree}
    (h : IsDocument dialect shapes l root) : root.slots.Perm (l.flatMap (Lexeme.kept shapes)) := by
  cases h with
  | mk hbefore he hafter =>
    rw [List.flatMap_append, List.flatMap_append, hbefore.kept_eq_nil, hafter.kept_eq_nil,
      List.append_nil]
    exact he.slots_perm

/-! ## Counting -/

/-- If everything stands once, then a part of a list is in the selection from all parts if and only
if it is selected wherever it stands. -/
theorem mem_flatMap_iff_of_nodup {α β : Type} {f g : α → List β} {l : List α}
    (hnodup : (l.flatMap g).Nodup) (hsub : ∀ x ∈ l, f x ⊆ g x) {b : β} (hb : b ∈ l.flatMap g) :
    b ∈ l.flatMap f ↔ ∀ x ∈ l, b ∈ g x → b ∈ f x := by
  have : Std.Symm (Function.onFun List.Disjoint g) := ⟨fun _ _ h => List.disjoint_symm h⟩
  constructor
  · intro hf x hx hbx
    obtain ⟨y, hy, hby⟩ := List.mem_flatMap.mp hf
    by_cases hxy : x = y
    · rwa [hxy]
    · have hdisjoint := (List.nodup_flatMap.mp hnodup).2.forall hx hy hxy
      exact absurd (hsub y hy hby) (hdisjoint hbx)
  · intro hall
    obtain ⟨x, hx, hbx⟩ := List.mem_flatMap.mp hb
    exact List.mem_flatMap.mpr ⟨x, hx, hall x hx hbx⟩

/-- **Every slot has one use at most**, and a slot that has one is that of a value. A value has its
use unless its slot is overwritten by a later attribute of the tag that it stands in, or stands in a
run that is a splice of another slot. -/
theorem Tree.count_slots_of_ofMarkup [Alphabet] {fragments : List Text} {b : Bindings} {m : Markup}
    {tree : Tree} (hm : Markup.assemble fragments b.size = .ok m)
    (htree : ofMarkup .standard b.shapes m = .ok tree) :
    (∀ slot, tree.slots.count slot ≤ 1) ∧ (∀ slot ∈ tree.slots, slot.index < b.size) ∧
      ∃ l, Cuts 0 m l ∧ IsDocument .standard b.shapes l tree ∧
        ∀ slot : Slot, slot.index < b.size →
          (tree.slots.count slot = 1 ↔ ∀ x ∈ l, ¬ x.Loses b.shapes slot) := by
  obtain ⟨l, hl, hdocument⟩ := ofMarkup_eq_ok htree
  have hproper := hdocument.isProper
  have hperm := hdocument.slots_perm
  have hsublist : (l.flatMap (Lexeme.kept b.shapes)).Sublist m.slots := by
    rw [hl.slots_eq]
    exact List.Sublist.flatMap_right l fun x hx => (hproper x hx).kept_sublist
  have hnodup := Markup.nodup_slots_of_assemble hm
  have htreeNodup : tree.slots.Nodup := hperm.nodup_iff.mpr (hnodup.sublist hsublist)
  refine ⟨List.nodup_iff_count_le_one.mp htreeNodup, ?_, l, hl, hdocument, ?_⟩
  · intro slot hslot
    exact (Markup.mem_slots_of_assemble hm).mp (hsublist.subset (hperm.mem_iff.mp hslot))
  · intro slot hslot
    have hslot : slot ∈ l.flatMap Lexeme.slots := by
      rw [← hl.slots_eq]
      exact (Markup.mem_slots_of_assemble hm).mpr hslot
    rw [hl.slots_eq] at hnodup
    have hcount : tree.slots.count slot = 1 ↔ slot ∈ tree.slots :=
      ⟨fun h => List.count_pos_iff.mp (h ▸ Nat.one_pos), List.count_eq_one_of_mem htreeNodup⟩
    rw [hcount, hperm.mem_iff,
      mem_flatMap_iff_of_nodup hnodup (fun x hx => (hproper x hx).kept_sublist.subset) hslot]
    refine forall₂_congr fun x hx => ?_
    rw [(hproper x hx).loses_iff ((List.nodup_flatMap.mp hnodup).1 x hx), not_and, not_not]

/-- Of an attribute that is written twice the second value is left, and of a label before a list the
list. -/
example : (Tree.ofMarkup .standard [.scalar, .scalar, .scalar, .list]
      (Markup.interleave 0 [txt "<p a=", txt " a=", txt ">", [], txt "</p>"])).map Tree.slots
    = .ok (([1, 3] : List Nat).filterMap Slot.ofIndex?) := by
  decide +kernel

end MarkupTemplate
