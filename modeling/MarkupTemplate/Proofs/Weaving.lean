import MarkupTemplate.Libraries
import MarkupTemplate.Proofs.FilledTags
import MarkupTemplate.Proofs.Identity
import MarkupTemplate.Proofs.Rendering

/-!
# Rendering with values that are written out

    fragments, values ──assemble──▶ markup ──read──▶ tree ──evaluate──▶ element
            │                         │                                    ║
          weave                      fill                                  ║
            ▼                         ▼                                    ║
          text     ──assemble──▶ markup ──read──▶ tree ──evaluate──▶ element

A template reads its markup before it looks at the values, so nothing in a value can change the
structure of what is rendered. This module is about the values for which that makes no difference:
scalars whose texts are inert. Their texts can be woven into the fragments beforehand, and the
template without values that results is rendered to the same element, unless an element has a key.
-/

namespace MarkupTemplate

/-! ## What values leave in text -/

/-- Whether values can be written out before a template is read: they are scalars, and what they
leave in text is part of whatever it stands in. -/
structure Bindings.Weavable [NumberFormat] (b : Bindings) : Prop where
  scalar : ∀ v ∈ b.values, Shape.of v = .scalar
  inert : ∀ v ∈ b.values, v.inline.Inert

/-- What the value of a slot leaves in running text. A slot without a value is its token. -/
def Bindings.filling [NumberFormat] (b : Bindings) (s : Slot) : Text :=
  ((b.value? s).map Json.inline).getD s.token

namespace Bindings.Weavable

variable {b : Bindings}

variable [NumberFormat]

theorem inert_filling (h : b.Weavable) (s : Slot) : (b.filling s).Inert := by
  rw [filling]
  cases hv : b.value? s with
  | none => exact s.inert_token
  | some v => exact h.inert v (List.mem_of_getElem? hv)

theorem eq_scalar_of_mem_shapes (h : b.Weavable) : ∀ shape ∈ b.shapes, shape = .scalar := by
  intro shape hshape
  obtain ⟨v, hv, rfl⟩ := List.mem_map.mp hshape
  exact h.scalar v hv

end Bindings.Weavable

namespace Interpolation

variable [NumberFormat]

/-- What a text resolves to is written in its filled symbols. -/
theorem ofText_of_resolve {b : Bindings} {i : Interpolation} {t : Text} (h : i.resolve b = .ok t) :
    Markup.ofText t = i.symbols.fill b.filling := by
  induction i generalizing t with
  | nil =>
    cases h
    rfl
  | cons p i ih =>
    cases p with
    | literal u =>
      obtain ⟨v, hv, h⟩ := bind_eq_ok.mp h
      cases h
      rw [symbols_literal_cons, Markup.fill_append, Markup.fill_ofText, Markup.ofText_append, ih hv]
    | read s =>
      obtain ⟨value, hvalue, h⟩ := bind_eq_ok.mp h
      obtain ⟨v, hv, h⟩ := bind_eq_ok.mp h
      cases h
      have hs : b.filling s = value.inline := by
        rw [Bindings.read] at hvalue
        split at hvalue
        · next hsome =>
          cases hvalue
          rw [Bindings.filling, hsome]
          rfl
        · cases hvalue
      rw [symbols_read_cons, Markup.fill_cons, Markup.fill_slot, hs, Markup.ofText_append, ih hv]

/-- A text whose slots are filled resolves to what the text resolves to. -/
theorem resolve_fill {b : Bindings} {i : Interpolation} {t : Text} (h : i.resolve b = .ok t)
    (b' : Bindings) : (i.fill b.filling).resolve b' = .ok t := by
  apply resolve_of_symbols
  rw [symbols_fill, ofText_of_resolve h]

end Interpolation

/-! ## Trees -/

namespace Rendered

mutual
/-- The heads of an element and of all elements in it. -/
def heads : Rendered → List (Head Unit Text)
  | .mk head (.text _) => [head]
  | .mk head (.nodes children) => head :: headsOf children

/-- The heads of all elements among children and in them. -/
def headsOf : List (Child Rendered Splice) → List (Head Unit Text)
  | [] => []
  | .element e :: rest => heads e ++ headsOf rest
  | .splice _ :: rest => headsOf rest
end

end Rendered

variable {shapes : List Shape} {b : Bindings}

namespace Tree

variable [NumberFormat]

theorem evaluateEntries_fill {l : List (Text × Interpolation)} {l' : List (Text × Text)}
    (h : evaluateEntries b l = .ok l') (b' : Bindings) :
    evaluateEntries b' (l.map fun e => (e.1, e.2.fill b.filling)) = .ok l' := by
  induction l generalizing l' with
  | nil => exact h
  | cons e l ih =>
    obtain ⟨name, value⟩ := e
    obtain ⟨text, htext, h⟩ := bind_eq_ok.mp h
    obtain ⟨rest, hrest, h⟩ := bind_eq_ok.mp h
    cases h
    rw [List.map_cons, evaluateEntries, Interpolation.resolve_fill htext b', ih hrest]
    rfl

/-- The head of a filled tag without a key is the head that the tag is evaluated to. -/
theorem evaluateHead_fill {opening : OpeningTag} {span : Span} {head : Head Unit Text}
    (h : evaluateHead b (opening.head span) = .ok head) (hkey : head.key = none) (b' : Bindings)
    (span' : Span) : opening.key = none ∧
      evaluateHead b' ((opening.fill b.filling).head span') = .ok head := by
  have hnone := key_eq_none_of_evaluateHead h hkey
  obtain ⟨htag, -, hentries⟩ := (evaluateHead_eq_ok_iff hnone).mp h
  refine ⟨hnone, (evaluateHead_eq_ok_iff rfl).mpr ⟨htag, hkey, ?_⟩⟩
  exact evaluateEntries_fill hentries b'

theorem eq_nil_of_evaluateChildren {children : List (Child Tree Slot)}
    (h : evaluateChildren b children = .ok []) : children = [] := by
  cases children with
  | nil => rfl
  | cons child rest =>
    cases child with
    | element e =>
      obtain ⟨_, -, h⟩ := bind_eq_ok.mp h
      obtain ⟨_, -, h⟩ := bind_eq_ok.mp h
      cases h
    | splice slot =>
      obtain ⟨_, -, h⟩ := bind_eq_ok.mp h
      obtain ⟨_, -, h⟩ := bind_eq_ok.mp h
      cases h

end Tree

/-- No void tag holds the sigil. -/
theorem Dialect.sigil_notMem_of_isVoid {name : Text} (h : standard.isVoid name = true) :
    sigil ∉ name := by
  have hall : ∀ tag ∈ standardVoidTags, sigil ∉ tag := by decide
  exact hall name (List.contains_iff_mem.mp h)

/-! ## Runs -/

section Weavable

variable [NumberFormat] (hb : b.Weavable)

include hb

theorem Run.isBlank_fill {r r' : Run} (h : r'.symbols = r.symbols.fill b.filling) :
    r'.isBlank = r.isBlank := by
  have hinert := hb.inert_filling
  have hblank := uniform_isBlankSymbol hinert
  rw [isBlank, isBlank, h, List.all_eq_not_any_not, List.all_eq_not_any_not]
  exact congrArg (!·) (hblank.not.any_fill hinert)

theorem Run.resolve_text_fill {r r' : Run} (h : r'.symbols = r.symbols.fill b.filling) {t : Text}
    (ht : r.text.resolve b = .ok t) (b' : Bindings) : r'.text.resolve b' = .ok t := by
  apply Interpolation.resolve_of_symbols
  rw [symbols_text, h, Markup.normalized_fill hb.inert_filling, ← symbols_text,
    Interpolation.ofText_of_resolve ht]

/-! ## Documents -/

mutual
/-- Filled lexemes describe an element without reads that is evaluated to the same thing. -/
theorem IsElement.fill [Alphabet] {l l' : List Lexeme} {e : Tree} {r : Rendered} :
    IsElement .standard b.shapes l e → List.Forall₂ (Lexeme.Filled b.filling) l l' →
      e.evaluate b = .ok r → (∀ head ∈ r.heads, head.key = none) →
      ∃ e', IsElement .standard [] l' e' ∧ e'.evaluate .empty = .ok r
  | .complete ho hd, .cons (.tag ht) .nil, heval, hkey => by
    obtain ⟨head, hhead, heval⟩ := bind_eq_ok.mp heval
    cases heval
    obtain ⟨hnone, hhead'⟩ := Tree.evaluateHead_fill hhead (hkey head List.mem_cons_self) .empty _
    refine ⟨_, .complete (ho.fill hb.inert_filling hnone ht) hd, ?_⟩
    rw [Tree.evaluate, hhead']
    rfl
  | .enclosing ho hd (.children hchildren) hc, .cons (.tag ht) hrest, heval, hkey => by
    obtain ⟨inside, _, rfl, hinside, _ | ht'⟩ := exists_concat_of_forall₂ hrest
    obtain ⟨head, hhead, heval⟩ := bind_eq_ok.mp heval
    obtain ⟨rs, hrs, heval⟩ := bind_eq_ok.mp heval
    cases heval
    have hkey := List.forall_mem_cons.mp hkey
    obtain ⟨hnone, hhead'⟩ := Tree.evaluateHead_fill hhead hkey.1 .empty _
    obtain ⟨children', hchildren', hrs'⟩ := hchildren.fill hinside hrs hkey.2
    refine ⟨_, .enclosing (ho.fill hb.inert_filling hnone ht) hd (.children hchildren')
      (Tag.closing?_of_filled hc ho.sigil_notMem_name ht'), ?_⟩
    rw [Tree.evaluate, hhead', hrs']
    rfl
  | .enclosing ho hd (.text hchildren hr _) hc, .cons (.tag ht) hrest, heval, hkey => by
    obtain ⟨_, _, rfl, hinside, _ | ht'⟩ := exists_concat_of_forall₂ hrest
    obtain ⟨before, _, rfl, hbefore, hrun | _⟩ := exists_concat_of_forall₂ hinside
    obtain ⟨head, hhead, heval⟩ := bind_eq_ok.mp heval
    obtain ⟨body, hbody, heval⟩ := bind_eq_ok.mp heval
    cases heval
    obtain ⟨hnone, hhead'⟩ := Tree.evaluateHead_fill hhead (hkey head List.mem_cons_self) .empty _
    -- Nothing has come before the run, and nothing comes before the filled run.
    obtain ⟨children', hchildren', hrs'⟩ :=
      hchildren.fill hbefore rfl (by simp [Rendered.headsOf])
    obtain rfl := Tree.eq_nil_of_evaluateChildren hrs'
    refine ⟨_, .enclosing (ho.fill hb.inert_filling hnone ht) hd
      (.text hchildren' ((Run.isBlank_fill hb hrun).trans hr) (Run.list?_eq_none (by simp)))
      (Tag.closing?_of_filled hc ho.sigil_notMem_name ht'), ?_⟩
    rw [Tree.evaluate, hhead', Run.resolve_text_fill hb hrun hbody]
    rfl

theorem IsChildren.fill [Alphabet] {l l' : List Lexeme} {children : List (Child Tree Slot)}
    {rs : List (Child Rendered Splice)} :
    IsChildren .standard b.shapes l children → List.Forall₂ (Lexeme.Filled b.filling) l l' →
      Tree.evaluateChildren b children = .ok rs → (∀ head ∈ Rendered.headsOf rs, head.key = none) →
      ∃ children', IsChildren .standard [] l' children' ∧
        Tree.evaluateChildren .empty children' = .ok rs
  | .nil, .nil, heval, _ => ⟨[], .nil, heval⟩
  | .element he hrest, hl, heval, hkey => by
    obtain ⟨l₁, l₂, rfl, hl₁, hl₂⟩ := exists_append_of_forall₂ hl
    obtain ⟨r, hr, heval⟩ := bind_eq_ok.mp heval
    obtain ⟨rs, hrs, heval⟩ := bind_eq_ok.mp heval
    cases heval
    have hkey := List.forall_mem_append.mp hkey
    obtain ⟨e', he', hr'⟩ := he.fill hl₁ hr hkey.1
    obtain ⟨children', hchildren', hrs'⟩ := hrest.fill hl₂ hrs hkey.2
    refine ⟨.element e' :: children', .element he' hchildren', ?_⟩
    rw [Tree.evaluateChildren, hr', hrs']
    rfl
  | .void ht hd hrest, .cons (.tag ht') hl, heval, hkey => by
    obtain ⟨children', hchildren, heval⟩ := hrest.fill hl heval hkey
    have ht := Tag.closing?_of_filled ht (Dialect.sigil_notMem_of_isVoid hd) ht'
    exact ⟨children', .void ht hd hchildren, heval⟩
  | .blank hr hrest, .cons (.run hr') hl, heval, hkey => by
    obtain ⟨children', hchildren, heval⟩ := hrest.fill hl heval hkey
    exact ⟨children', .blank ((Run.isBlank_fill hb hr').trans hr) hchildren, heval⟩
  | .splice hs _, _, _, _ => by
    rw [Run.list?_eq_none hb.eq_scalar_of_mem_shapes] at hs
    cases hs
end

theorem IsMargin.fill {l l' : List Lexeme} (h : IsMargin .standard l)
    (hl : List.Forall₂ (Lexeme.Filled b.filling) l l') : IsMargin .standard l' := by
  induction h generalizing l' with
  | nil =>
    cases hl
    exact .nil
  | blank hr _ ih =>
    cases hl with
    | cons hx hl =>
      cases hx with
      | run hr' => exact .blank ((Run.isBlank_fill hb hr').trans hr) (ih hl)
  | void ht hd _ ih =>
    cases hl with
    | cons hx hl =>
      cases hx with
      | tag ht' =>
        exact .void (Tag.closing?_of_filled ht (Dialect.sigil_notMem_of_isVoid hd) ht') hd (ih hl)

theorem IsDocument.fill [Alphabet] {l l' : List Lexeme} {root : Tree} {r : Rendered}
    (h : IsDocument .standard b.shapes l root) (hl : List.Forall₂ (Lexeme.Filled b.filling) l l')
    (heval : root.evaluate b = .ok r) (hkey : ∀ head ∈ r.heads, head.key = none) :
    ∃ root', IsDocument .standard [] l' root' ∧ root'.evaluate .empty = .ok r := by
  cases h with
  | mk hbefore he hafter =>
    obtain ⟨before, _, rfl, hl₁, hl⟩ := exists_append_of_forall₂ hl
    obtain ⟨l, after, rfl, hl₂, hl₃⟩ := exists_append_of_forall₂ hl
    obtain ⟨root', hroot', heval'⟩ := he.fill hb hl₂ heval hkey
    exact ⟨root', .mk (hbefore.fill hb hl₁) hroot' (hafter.fill hb hl₃), heval'⟩

end Weavable

/-! ## Writing values out -/

/-- Fragments with texts between them. -/
def weave : List Text → List Text → Text
  | [], _ => []
  | fragment :: fragments, [] => fragment ++ weave fragments []
  | fragment :: fragments, text :: texts => fragment ++ text ++ weave fragments texts

theorem Slot.exists_ofIndex? {index : Nat} (h : index < poolSize) :
    ∃ s, ofIndex? index = some s ∧ s.index = index := by
  have hpool : 0 < index + 1 ∧ index + 1 ≤ poolSize := by omega
  exact ⟨⟨index + 1, hpool.1, hpool.2⟩, dif_pos hpool, rfl⟩

/-- What the fragments from an index on come to when the slots between them are filled. -/
theorem Markup.fill_interleave [NumberFormat] (hsize : b.size ≤ poolSize) (fragments : List Text)
    (index : Nat) (hlength : index + fragments.length = b.size + 1) :
    (interleave index fragments).fill b.filling
      = ofText (weave fragments ((b.values.drop index).map Json.inline)) := by
  fun_induction interleave index fragments with
  | case1 => rfl
  | case2 index fragment =>
    have hdrop : b.values.drop index = [] := by
      rw [List.drop_eq_nil_iff]
      simpa [Bindings.size] using Nat.le_of_eq (Nat.succ.inj hlength).symm
    rw [hdrop, fill_ofText]
    show ofText fragment = ofText (fragment ++ [])
    rw [List.append_nil]
  | case3 index fragment rest hne ih =>
    have hrest : 0 < rest.length := List.length_pos_iff.mpr hne
    rw [List.length_cons] at hlength
    have hindex : index < b.values.length := by
      show index < b.size
      omega
    obtain ⟨s, hs, hsindex⟩ := Slot.exists_ofIndex? (Nat.lt_of_lt_of_le hindex hsize)
    have hfilling : b.filling s = b.values[index].inline := by
      rw [Bindings.filling, Bindings.value?, hsindex, List.getElem?_eq_getElem hindex]
      rfl
    rw [hs, fill_append, fill_append, fill_ofText, ih (by omega), List.drop_eq_getElem_cons hindex,
      List.map_cons, weave, ofText_append, ofText_append]
    show ofText fragment ++ (ofText (b.filling s) ++ []) ++ _ = _
    rw [List.append_nil, hfilling]

namespace Engine

/-- **Values can be written out before a template is read.** If the values are scalars whose texts
are not empty and have no white space, quotes or angle brackets, and the template renders to an
element in which nothing has a key, then the text of the fragments with the texts of the values
between them is a template without values that renders to the same element. -/
theorem render_weave [Alphabet] [NumberFormat] {fragments : List Text} {b : Bindings} {e : Rendered}
    (hb : b.Weavable) (hrender : ((new .standard .plain ()).render fragments b).1 = .ok e)
    (hkey : ∀ head ∈ e.heads, head.key = none) :
    ((new .standard .plain ()).render [weave fragments (b.values.map Json.inline)] .empty).1
      = .ok e := by
  obtain ⟨m, l, tree, hm, hl, hdocument, heval⟩ := render_new_eq_ok_iff.mp hrender
  obtain ⟨hsize, hlength, rfl⟩ := Markup.assemble_eq_ok hm
  obtain ⟨l', hl', hfilled⟩ := hl.fill hb.inert_filling 0
  obtain ⟨tree', hdocument', heval'⟩ := hdocument.fill hb hfilled heval hkey
  rw [Markup.fill_interleave hsize fragments 0 (by omega), List.drop_zero] at hl'
  exact render_new_eq_ok_iff.mpr ⟨_, l', tree', rfl, hl', hdocument', heval'⟩

/-- A link in which a value ends with a slash right before the end of its tag, and values stand at
the ends of a text. -/
theorem render_weave_link :
    ∃ e, (⟨[.string (txt "a/"), .integer 7, .bool true]⟩ : Bindings).Weavable ∧
      ((new .standard .plain ()).render
          [txt "<p><a rel=x href=", txt ">\n", txt " of ", txt "</a><br/></p>"]
          ⟨[.string (txt "a/"), .integer 7, .bool true]⟩).1 = .ok e ∧
      (∀ head ∈ e.heads, head.key = none) ∧
      ((new .standard .plain ()).render [txt "<p><a rel=x href=a/>\n7 of true</a><br/></p>"]
          .empty).1 = .ok e := by
  have hb : (⟨[.string (txt "a/"), .integer 7, .bool true]⟩ : Bindings).Weavable :=
    ⟨by decide, by decide +kernel⟩
  have hkeys : (((new .standard .plain ()).render
      [txt "<p><a rel=x href=", txt ">\n", txt " of ", txt "</a><br/></p>"]
      ⟨[.string (txt "a/"), .integer 7, .bool true]⟩).1.map fun e =>
        decide (∀ head ∈ e.heads, head.key = none)) = .ok true := by decide +kernel
  obtain ⟨e, he, hkey⟩ := map_eq_ok.mp hkeys
  have hwoven := render_weave hb he (of_decide_eq_true hkey)
  have htext : weave [txt "<p><a rel=x href=", txt ">\n", txt " of ", txt "</a><br/></p>"]
      ([.string (txt "a/"), .integer 7, .bool true].map Json.inline)
        = txt "<p><a rel=x href=a/>\n7 of true</a><br/></p>" := by decide +kernel
  rw [htext] at hwoven
  exact ⟨e, hb, he, of_decide_eq_true hkey, hwoven⟩

end Engine

end MarkupTemplate
