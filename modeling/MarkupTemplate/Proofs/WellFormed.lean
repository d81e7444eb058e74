import MarkupTemplate.Libraries
import MarkupTemplate.Proofs.Conservation
import MarkupTemplate.Proofs.Settings

/-!
# Parsed templates are well formed

    lexemes ──IsElement──▶ tree ∋ element ∋ names, key, body, splices, reads

Whatever comes after the parser relies on what it never says: that names are names, that a key reads
something, that a void element is empty, that no text has a piece to spare. `Tree.IsWellFormed` is
all of this for one element, and `Tree.isWellFormed_of_ofMarkup` says that every element of a parsed
template has it.

What an element is on its own, `Tree.IsFormed`, comes from the tag that opens it and the run that is
its text. The builder only makes elements that the grammar describes, so this is shown along the
grammar. What an element asks of the values comes from its uses, which are uses of the whole tree.
-/

namespace MarkupTemplate

variable {dialect : Dialect} {shapes : List Shape}

/-! ## The elements of a tree -/

namespace Tree

mutual
/-- An element and all that are in it, an element before what is in it. -/
def subtrees : Tree → List Tree
  | .mk head (.text body) => [.mk head (.text body)]
  | .mk head (.nodes children) => .mk head (.nodes children) :: subtreesOf children

/-- The elements among children, and all that are in them. -/
def subtreesOf : List (Child Tree Slot) → List Tree
  | [] => []
  | .element e :: rest => subtrees e ++ subtreesOf rest
  | .splice _ :: rest => subtreesOf rest
end

mutual
/-- What an element uses is used by every tree that it is in. -/
theorem uses_subset_of_mem_subtrees :
    ∀ (tree : Tree) {e : Tree}, e ∈ tree.subtrees → e.uses ⊆ tree.uses
  | .mk head (.text body), e, he => by
    obtain rfl := List.mem_singleton.mp he
    exact List.Subset.refl _
  | .mk head (.nodes children), e, he => by
    rcases List.mem_cons.mp he with rfl | he
    · exact List.Subset.refl _
    · exact List.Subset.trans (uses_subset_of_mem_subtreesOf children he)
        (List.subset_append_right _ _)

theorem uses_subset_of_mem_subtreesOf :
    ∀ (children : List (Child Tree Slot)) {e : Tree}, e ∈ subtreesOf children →
      e.uses ⊆ usesOf children
  | [], _, he => by cases he
  | .element e :: rest, _, he => by
    rcases List.mem_append.mp he with he | he
    · exact List.Subset.trans (uses_subset_of_mem_subtrees e he) (List.subset_append_left _ _)
    · exact List.Subset.trans (uses_subset_of_mem_subtreesOf rest he)
        (List.subset_append_right _ _)
  | .splice _ :: rest, _, he =>
    List.Subset.trans (uses_subset_of_mem_subtreesOf rest he) (List.subset_cons_self _ _)
end

/-- A splice among children is a use. -/
theorem splice_mem_usesOf {children : List (Child Tree Slot)} {slot : Slot}
    (h : .splice slot ∈ children) : .splice slot ∈ usesOf children := by
  induction children with
  | nil => cases h
  | cons child rest ih =>
    cases child with
    | element e =>
      have hrest : .splice slot ∈ rest := by simpa using h
      exact List.mem_append_right _ (ih hrest)
    | splice other =>
      rcases List.mem_cons.mp h with h | h
      · cases h
        exact List.mem_cons_self
      · exact List.mem_cons_of_mem _ (ih h)

theorem splice_mem_uses {e : Tree} {slot : Slot} (h : .splice slot ∈ e.content.children) :
    .splice slot ∈ e.uses := by
  obtain ⟨head, body | children⟩ := e
  · cases h
  · exact List.mem_append_right _ (splice_mem_usesOf h)

end Tree

section

variable [Alphabet]

/-- Whether a property holds of everything that an opening tag makes of its content. -/
def HoldsOfTags (dialect : Dialect) (shapes : List Shape) (P : Tree → Prop) : Prop :=
  ∀ {t : Tag} {opening : OpeningTag} {closed : Bool} {inside : List Lexeme}
    {content : Content Interpolation (Child Tree Slot)}, t.Opens opening closed →
    (dialect.isVoid opening.name = true → content = .nodes []) →
    IsContent dialect shapes inside content → P (.mk (opening.head t.span) content)

mutual
/-- What holds of everything that an opening tag makes of its content holds of all elements that
lexemes describe. -/
theorem IsElement.forall_subtrees {P : Tree → Prop} (h : HoldsOfTags dialect shapes P)
    {l : List Lexeme} {tree : Tree} :
    IsElement dialect shapes l tree → ∀ e ∈ tree.subtrees, P e
  | .complete ho _ => List.forall_mem_singleton.mpr (h ho (fun _ => rfl) (.children .nil))
  | .enclosing ho hd (.children hchildren) _ =>
    List.forall_mem_cons.mpr ⟨h ho (fun hvoid => by simp [hd] at hvoid) (.children hchildren),
      hchildren.forall_subtreesOf h⟩
  | .enclosing ho hd (.text hinside hr hs) _ =>
    List.forall_mem_singleton.mpr
      (h ho (fun hvoid => by simp [hd] at hvoid) (.text hinside hr hs))

theorem IsChildren.forall_subtreesOf {P : Tree → Prop} (h : HoldsOfTags dialect shapes P)
    {l : List Lexeme} {children : List (Child Tree Slot)} :
    IsChildren dialect shapes l children → ∀ e ∈ Tree.subtreesOf children, P e
  | .nil => List.forall_mem_nil _
  | .element he hrest =>
    List.forall_mem_append.mpr ⟨he.forall_subtrees h, hrest.forall_subtreesOf h⟩
  | .void _ _ hrest => hrest.forall_subtreesOf h
  | .blank _ hrest => hrest.forall_subtreesOf h
  | .splice _ hrest => hrest.forall_subtreesOf h
end

end

/-! ## The text of an element -/

namespace Interpolation

/-- Whether a text can be the content of an element. -/
structure IsBody (i : Interpolation) : Prop where
  ne_nil : i ≠ []
  canonical : i.IsCanonical
  no_lineBreak : ∀ t, .literal t ∈ i → '\r' ∉ t ∧ '\n' ∉ t
  /-- A literal in front of everything does not begin with white space. -/
  front : ∀ c t rest, i = .literal (c :: t) :: rest → isBlank c = false
  /-- A literal behind everything does not end with white space. -/
  back : ∀ before t c, i = before ++ [.literal (t ++ [c])] → isBlank c = false

theorem Apart.isCanonical_normalized {i : Interpolation} (h : Apart i) :
    i.normalized.IsCanonical where
  apart := (((h.map_mapLiteral _).mapFirst _).mapLast _).filter_isEmpty
  nonempty p hp := by simpa using (List.mem_filter.mp hp).2

theorem symbols_append (i j : Interpolation) : symbols (i ++ j) = symbols i ++ symbols j :=
  List.flatMap_append

theorem mem_symbols_of_literal_mem {i : Interpolation} {t : Text} (h : .literal t ∈ i) {c : Char}
    (hc : c ∈ t) : .char c ∈ i.symbols :=
  List.mem_flatMap.mpr ⟨_, h, Markup.char_mem_ofText.mpr hc⟩

end Interpolation

/-- The text of a run that is not blank can be the content of an element. -/
theorem Run.isBody_text {r : Run} (h : r.isBlank = false) : r.text.IsBody where
  ne_nil hnil := by
    apply normalized_ne_nil h
    rw [← symbols_text, hnil]
    rfl
  canonical := (Interpolation.apart_ofMarkup r.symbols).isCanonical_normalized
  no_lineBreak t ht := by
    have hbreak : ∀ c ∈ t, Interpolation.isLineBreak c = false := by
      intro c hc
      have hmem := Interpolation.mem_symbols_of_literal_mem ht hc
      rw [symbols_text] at hmem
      simpa using (List.mem_filter.mp (Markup.mem_of_mem_normalized hmem)).2
    constructor
    · intro hc
      cases hbreak _ hc
    · intro hc
      cases hbreak _ hc
  -- The symbols of the text are those of the trimmed run, so its ends are the ends of the run.
  front c t rest h := by
    have hhead : (Symbol.char c) ∈ r.text.symbols.head? := by rw [h]; rfl
    rw [symbols_text] at hhead
    exact Markup.head?_trimmed _ _ hhead
  back before t c h := by
    have hlast : (Symbol.char c) ∈ r.text.symbols.getLast? := by
      rw [h, Interpolation.symbols_append]
      simp [Piece.symbols]
    rw [symbols_text] at hlast
    exact Markup.getLast?_trimmed _ _ hlast

/-! ## The head of an element -/

namespace OpeningTag

/-- A key reads something. -/
theorem reads_ne_nil_of_key {name : Text} {settings : List (Text × Markup)} {key : Interpolation}
    (h : (ofSettings name settings).key = some key) : key.reads ≠ [] := by
  have hlast := (setsOut_ofSettings name settings).key
  rw [h, Option.map_some] at hlast
  obtain ⟨setting, hsetting, hvalue⟩ := Option.map_eq_some_iff.mp hlast.symm
  have htarget : target setting = .key := by
    simpa using (List.mem_filter.mp (List.mem_of_getLast? hsetting)).2
  rw [target] at htarget
  split at htarget
  · next hkey =>
    obtain ⟨slot, hslot⟩ := List.exists_mem_of_ne_nil _ hkey.2
    rw [hvalue, Markup.mem_slots, ← Interpolation.mem_reads] at hslot
    exact List.ne_nil_of_mem hslot
  · cases htarget

end OpeningTag

/-! ## Elements by themselves -/

section

variable [Alphabet]

/-- Whether an element is well formed, whatever the values. -/
structure Tree.IsFormed (dialect : Dialect) (e : Tree) : Prop where
  tagName : isTagName e.head.tag = true
  attributeNames : ∀ name ∈ e.head.attributes.names, isAttributeName name = true
  key : ∀ key, e.head.key = some key → key.reads ≠ []
  void : dialect.isVoid e.head.tag = true → e.content = .nodes []
  body : ∀ body, e.content = .text body → body.IsBody

/-- The head of an element comes from its opening tag. -/
theorem Tag.Opens.isFormed {t : Tag} {opening : OpeningTag} {closed : Bool}
    (h : t.Opens opening closed) {content : Content Interpolation (Child Tree Slot)}
    (hvoid : dialect.isVoid opening.name = true → content = .nodes [])
    (hbody : ∀ body, content = .text body → body.IsBody) :
    Tree.IsFormed dialect (.mk (opening.head t.span) content) := by
  have hspells := OpeningTag.read_eq_ok_iff.mp h.2
  obtain ⟨settings, hsettings, hall⟩ := hspells.exists_settings
  refine ⟨hspells.isTagName, ?_, ?_, hvoid, hbody⟩
  · intro name hname
    obtain ⟨e, he, rfl⟩ := List.mem_map.mp hname
    have hvalue : e ∈ opening.values := List.mem_append_right _ he
    rw [hsettings] at hvalue
    obtain ⟨setting, hsetting, rfl⟩ := OpeningTag.mem_values_ofSettings hvalue
    exact (hall setting hsetting).attributeName
  · intro key hkey
    have hkey : opening.key = some key := hkey
    rw [hsettings] at hkey
    exact OpeningTag.reads_ne_nil_of_key hkey

/-- Elements by themselves are well formed. -/
theorem IsElement.isFormed {l : List Lexeme} {tree : Tree} (h : IsElement dialect shapes l tree) :
    ∀ e ∈ tree.subtrees, e.IsFormed dialect := by
  refine h.forall_subtrees fun ho hvoid hcontent => ho.isFormed hvoid fun body hbody => ?_
  subst hbody
  cases hcontent with
  | text _ hr _ => exact Run.isBody_text hr

end

/-! ## Elements and values -/

namespace Tree

section

variable [Alphabet]

/-- Whether an element is well formed, as part of a template for some values. -/
structure IsWellFormed (dialect : Dialect) (b : Bindings) (e : Tree) : Prop
    extends IsFormed dialect e where
  /-- Only lists are spliced in. -/
  splices : ∀ slot, .splice slot ∈ e.content.children → b.shape? slot = some .list
  /-- Every slot in the element has a value. -/
  slots : ∀ slot ∈ e.slots, slot.number ≤ b.size

theorem IsFormed.isWellFormed {b : Bindings} {e : Tree} (h : e.IsFormed dialect)
    (hfits : ∀ use ∈ e.uses, use.Fits b.shapes) : e.IsWellFormed dialect b where
  toIsFormed := h
  splices slot hslot := by
    rw [Bindings.shape?_eq]
    exact hfits _ (splice_mem_uses hslot)
  slots slot hslot := by
    obtain ⟨use, huse, rfl⟩ := List.mem_map.mp hslot
    have hindex : use.slot.index < b.size := by
      rw [← Bindings.length_shapes]
      cases use with
      | read slot => exact hfits _ huse
      | splice slot => exact (List.getElem?_eq_some_iff.mp (hfits _ huse)).1
    rw [Slot.index] at hindex
    omega

/-- **Every element of a parsed template is well formed.** -/
theorem isWellFormed_of_ofMarkup {fragments : List Text} {b : Bindings} {m : Markup} {tree : Tree}
    (hm : Markup.assemble fragments b.size = .ok m)
    (htree : ofMarkup dialect b.shapes m = .ok tree) :
    ∀ e ∈ tree.subtrees, e.IsWellFormed dialect b := by
  intro e he
  obtain ⟨l, -, hdocument⟩ := ofMarkup_eq_ok htree
  have hformed : ∀ e ∈ tree.subtrees, e.IsFormed dialect := by
    cases hdocument with
    | mk _ helement _ => exact helement.isFormed
  rw [← Bindings.length_shapes] at hm
  have hfits := fits_of_ofMarkup hm htree
  exact (hformed e he).isWellFormed fun use huse =>
    hfits use (uses_subset_of_mem_subtrees tree he huse)

end

/-- The item of a list with a key, behind which stand a splice and a void element. -/
theorem isWellFormed_of_ofMarkup_item :
    ∃ m tree item,
      Markup.assemble [txt "<ul key=", txt "><li> a ", txt "\n</li>", txt "<br></ul>"]
          (⟨[.null, .null, .array []]⟩ : Bindings).size = .ok m ∧
        ofMarkup .standard (⟨[.null, .null, .array []]⟩ : Bindings).shapes m = .ok tree ∧
        item ∈ tree.subtrees ∧ item.head.tag = txt "li" ∧
        item.IsWellFormed .standard ⟨[.null, .null, .array []]⟩ := by
  have hm : Markup.assemble [txt "<ul key=", txt "><li> a ", txt "\n</li>", txt "<br></ul>"]
      (⟨[.null, .null, .array []]⟩ : Bindings).size = .ok (Markup.interleave 0
        [txt "<ul key=", txt "><li> a ", txt "\n</li>", txt "<br></ul>"]) := rfl
  have htags : (ofMarkup .standard (⟨[.null, .null, .array []]⟩ : Bindings).shapes
      (Markup.interleave 0 [txt "<ul key=", txt "><li> a ", txt "\n</li>", txt "<br></ul>"])).map
        (fun tree => tree.subtrees.map (·.head.tag)) = .ok [txt "ul", txt "li", txt "br"] := by
    decide +kernel
  obtain ⟨tree, htree, htags⟩ := map_eq_ok.mp htags
  have hmem : txt "li" ∈ tree.subtrees.map (·.head.tag) := by
    rw [htags]
    decide
  obtain ⟨item, hitem, htag⟩ := List.mem_map.mp hmem
  exact ⟨_, tree, item, hm, htree, hitem, htag, isWellFormed_of_ofMarkup hm htree item hitem⟩

end Tree

end MarkupTemplate
