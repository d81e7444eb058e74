import MarkupTemplate.Libraries
import MarkupTemplate.Proofs.Locating
import MarkupTemplate.Proofs.WellFormed

/-!
# Opening tags and the elements of a tree

    <a>  <b>  </b>  <c/>  </a>
     │    │          │
     a ── b ──────── c            the subtrees, an element before what is in it

An element finds its place when it is complete, so an outer one later than those in it. For all that
no element is lost and none is out of order: the opening tags of a markup are in line with the
subtrees of its tree. This is shown along the grammar, where an opening tag stands in front of what
its element holds, as the element itself does among the subtrees.

Tags do not overlap, so neither do the spans of elements.
-/

namespace MarkupTemplate

variable {dialect : Dialect} {shapes : List Shape}

/-! ## Opening tags -/

/-- Whether a tag is not a closing tag: its content does not begin with a slash. -/
def Tag.isOpening (t : Tag) : Bool := t.content.head? ≠ some (.char '/')

theorem Tag.isOpening_of_closing?_eq_none {t : Tag} (h : t.closing? = none) :
    t.isOpening = true := by
  rw [closing?] at h
  split at h
  · cases h
  · next hcontent =>
    rw [isOpening, decide_eq_true_eq]
    intro hslash
    obtain ⟨name, hname⟩ := List.head?_eq_some_iff.mp hslash
    exact hcontent name hname

theorem Tag.isOpening_of_closing?_eq_some {t : Tag} {name : Text} (h : t.closing? = some name) :
    t.isOpening = false := by
  rw [closing?] at h
  split at h
  · next hcontent => simp [isOpening, hcontent]
  · cases h

/-- The opening tags among lexemes, in order. -/
def openings (l : List Lexeme) : List Tag := (tagsOf l).filter Tag.isOpening

@[simp] theorem openings_nil : openings [] = [] := rfl

@[simp] theorem openings_append (l l' : List Lexeme) :
    openings (l ++ l') = openings l ++ openings l' := by
  rw [openings, tagsOf_append, List.filter_append]
  rfl

@[simp] theorem openings_run_cons (r : Run) (l : List Lexeme) :
    openings (.run r :: l) = openings l := rfl

theorem openings_of_opens [Alphabet] {t : Tag} {opening : OpeningTag} {closed : Bool}
    (h : t.Opens opening closed) (l : List Lexeme) : openings (.tag t :: l) = t :: openings l :=
  List.filter_cons_of_pos (Tag.isOpening_of_closing?_eq_none h.1)

theorem openings_of_closing {t : Tag} {name : Text} (h : t.closing? = some name)
    (l : List Lexeme) : openings (.tag t :: l) = openings l :=
  List.filter_cons_of_neg (by simp [Tag.isOpening_of_closing?_eq_some h])

theorem IsMargin.openings_eq_nil {l : List Lexeme} (h : IsMargin dialect l) : openings l = [] := by
  induction h with
  | nil => rfl
  | blank _ _ ih => exact ih
  | void ht _ _ ih =>
    rw [openings_of_closing ht]
    exact ih

/-! ## One element for each opening tag -/

section

variable [Alphabet]

/-- Whether the head of an element is what a tag says. -/
def Tag.Heads (t : Tag) (e : Tree) : Prop :=
  ∃ opening closed, t.Opens opening closed ∧ e.head = opening.head t.span

mutual
/-- The opening tags of an element are in line with its subtrees. -/
theorem IsElement.forall₂_subtrees {l : List Lexeme} {tree : Tree} :
    IsElement dialect shapes l tree → List.Forall₂ Tag.Heads (openings l) tree.subtrees
  | .complete ho _ => by
    rw [openings_of_opens ho]
    exact .cons ⟨_, _, ho, rfl⟩ .nil
  | .enclosing ho _ (.children hchildren) hclosing => by
    rw [openings_of_opens ho, openings_append, openings_of_closing hclosing, openings_nil,
      List.append_nil]
    exact .cons ⟨_, _, ho, rfl⟩ hchildren.forall₂_subtreesOf
  | .enclosing ho _ (.text hinside _ _) hclosing => by
    rw [openings_of_opens ho, openings_append, openings_append, openings_run_cons,
      openings_of_closing hclosing, openings_nil, List.append_nil, List.append_nil]
    exact .cons ⟨_, _, ho, rfl⟩ hinside.forall₂_subtreesOf

theorem IsChildren.forall₂_subtreesOf {l : List Lexeme} {children : List (Child Tree Slot)} :
    IsChildren dialect shapes l children →
      List.Forall₂ Tag.Heads (openings l) (Tree.subtreesOf children)
  | .nil => .nil
  | .element he hrest => by
    rw [openings_append]
    exact List.rel_append he.forall₂_subtrees hrest.forall₂_subtreesOf
  | .void ht _ hrest => by
    rw [openings_of_closing ht]
    exact hrest.forall₂_subtreesOf
  | .blank _ hrest => hrest.forall₂_subtreesOf
  | .splice _ hrest => hrest.forall₂_subtreesOf
end

theorem IsDocument.forall₂_subtrees {l : List Lexeme} {root : Tree}
    (h : IsDocument dialect shapes l root) :
    List.Forall₂ Tag.Heads (openings l) root.subtrees := by
  cases h with
  | mk hbefore helement hafter =>
    rw [openings_append, openings_append, hbefore.openings_eq_nil, hafter.openings_eq_nil,
      List.nil_append, List.append_nil]
    exact helement.forall₂_subtrees

end

/-! ## The text of a tag -/

/-- What is in no token is in a text only where it is in the markup. -/
theorem Markup.char_mem_of_mem_text {m : Markup} {c : Char} (h : c ∈ m.text) (hsigil : c ≠ sigil)
    (hdigit : c.isDigit = false) : .char c ∈ m := by
  obtain ⟨x, hx, hc⟩ := List.mem_flatMap.mp h
  cases x with
  | char d =>
    obtain rfl := List.mem_singleton.mp hc
    exact hx
  | slot s => exact absurd hc (s.notMem_token hsigil hdigit)

/-- Whether a span of a text is that of a tag: it begins and ends with the brackets, and there are
no others in it. -/
def Span.IsTag (s : Span) (text : Text) : Prop :=
  ∃ inside, text.slice? s.start s.stop = some ('<' :: (inside ++ ['>'])) ∧
    '<' ∉ inside ∧ '>' ∉ inside

theorem Tag.StandsIn.isTag {t : Tag} {m : Markup} (h : t.StandsIn 0 m) : t.span.IsTag m.text := by
  refine ⟨t.content.text, ?_, ?_, ?_⟩
  · rw [h.covers.slice?]
    simp [Markup.tag, Symbol.text]
  · intro hmem
    have := Markup.char_mem_of_mem_text hmem (by decide) (by decide)
    exact (h.no_bracket _ this).1 rfl
  · intro hmem
    have := Markup.char_mem_of_mem_text hmem (by decide) (by decide)
    exact (h.no_bracket _ this).2 rfl

/-! ## The spans of elements -/

namespace Tag

variable [Alphabet]

theorem Heads.origin_eq {t : Tag} {e : Tree} (h : t.Heads e) : e.head.origin = t.span := by
  obtain ⟨opening, closed, -, hhead⟩ := h
  rw [hhead]
  rfl

theorem map_origin_of_forall₂_heads {tags : List Tag} {elements : List Tree}
    (h : List.Forall₂ Heads tags elements) :
    elements.map (·.head.origin) = tags.map span := by
  induction h with
  | nil => rfl
  | cons hhead _ ih => rw [List.map_cons, List.map_cons, hhead.origin_eq, ih]

/-- Whether an element is what a tag of some markup becomes. Its span is that of the tag there. -/
structure Becomes (m : Markup) (t : Tag) (e : Tree) : Prop where
  heads : t.Heads e
  covers : e.head.origin.Covers 0 m (Markup.tag t.content)
  isTag : e.head.origin.IsTag m.text

theorem Heads.becomes {m : Markup} {t : Tag} {e : Tree} (h : t.Heads e) (ht : t.StandsIn 0 m) :
    t.Becomes m e := by
  refine ⟨h, ?_, ?_⟩
  · rw [h.origin_eq]
    exact ht.covers
  · rw [h.origin_eq]
    exact ht.isTag

end Tag

/-- Of two opening tags, the first one ends before the other one begins. -/
theorem Cuts.pairwise_openings {start : Nat} {m : Markup} {l : List Lexeme} (h : Cuts start m l) :
    (openings l).Pairwise fun t t' =>
      t.span.start < t'.span.start ∧ t.span.stop ≤ t'.span.start := by
  apply (h.pairwise_tags.filter _).imp
  intro t t' hle
  have hlt : t.span.start < t.span.stop := by
    simp only [Tag.span]
    omega
  exact ⟨Nat.lt_of_lt_of_le hlt hle, hle⟩

namespace Tree

/-- **Every opening tag becomes one element, and in order.** The opening tags of a markup are in
line with the subtrees of its tree. The span of an element is that of its tag, so it ends before the
next element begins. -/
theorem subtrees_of_ofMarkup [Alphabet] {m : Markup} {tree : Tree}
    (h : ofMarkup dialect shapes m = .ok tree) :
    ∃ l, Cuts 0 m l ∧ List.Forall₂ (Tag.Becomes m) (openings l) tree.subtrees ∧
      tree.subtrees.Pairwise fun e e' => e.head.origin.start < e'.head.origin.start ∧
        e.head.origin.stop ≤ e'.head.origin.start := by
  obtain ⟨l, hcuts, hdocument⟩ := ofMarkup_eq_ok h
  have hheads := hdocument.forall₂_subtrees
  refine ⟨l, hcuts, ?_, ?_⟩
  · have hstands : ∀ t ∈ openings l, t.StandsIn 0 m := fun t ht =>
      hcuts.standsIn t (List.mem_of_mem_filter ht)
    exact ((List.forall₂_and_left _ _).mpr ⟨hstands, hheads⟩).imp fun t e h => h.2.becomes h.1
  · have hspans : ((openings l).map Tag.span).Pairwise fun s s' =>
        s.start < s'.start ∧ s.stop ≤ s'.start :=
      List.pairwise_map.mpr hcuts.pairwise_openings
    rw [← Tag.map_origin_of_forall₂_heads hheads] at hspans
    exact List.pairwise_map.mp hspans

/-- A list whose key is read, with an item and a void element behind it. -/
theorem subtrees_of_ofMarkup_item : ∃ tree,
    ofMarkup .standard [.scalar]
        (Markup.interleave 0 [txt "<ul key=", txt "><li> é </li><br/></ul>"]) = .ok tree ∧
      tree.subtrees.map (·.head.origin) = [⟨0, 11⟩, ⟨11, 15⟩, ⟨24, 29⟩] ∧
      ∃ l, Cuts 0 (Markup.interleave 0 [txt "<ul key=", txt "><li> é </li><br/></ul>"]) l ∧
        List.Forall₂
          (Tag.Becomes (Markup.interleave 0 [txt "<ul key=", txt "><li> é </li><br/></ul>"]))
          (openings l) tree.subtrees ∧
        tree.subtrees.Pairwise fun e e' => e.head.origin.start < e'.head.origin.start ∧
          e.head.origin.stop ≤ e'.head.origin.start := by
  have horigins : (ofMarkup .standard [.scalar]
      (Markup.interleave 0 [txt "<ul key=", txt "><li> é </li><br/></ul>"])).map
        (fun tree => tree.subtrees.map (·.head.origin)) =
      .ok [⟨0, 11⟩, ⟨11, 15⟩, ⟨24, 29⟩] := by
    decide +kernel
  obtain ⟨tree, htree, horigins⟩ := map_eq_ok.mp horigins
  exact ⟨tree, htree, horigins, subtrees_of_ofMarkup htree⟩

end Tree

end MarkupTemplate
