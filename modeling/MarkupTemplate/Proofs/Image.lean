import MarkupTemplate.Proofs.Weaving
import MarkupTemplate.Proofs.Writing

/-!
# What templates without values render to

    text ──cut──▶ lexemes ──read──▶ tree ──evaluate──▶ element that can be written

However oddly a template without values is written, it renders to an element that can be written
plainly. Everything in the element comes from the markup: a value from one word, which has quotes of
one kind at most, and a text from one run, which ends at the next bracket.

`Engine.render_static_iff` puts the two directions together: the elements that static templates
render to are those that can be written, and each of them is rendered from what is written for it.
-/

namespace MarkupTemplate

variable {dialect : Dialect}

/-! ## Lexemes of a text -/

/-- A lexeme of markup without slots. -/
inductive Lexeme.IsPlain : Lexeme → Prop
  | run {r : Run} {t : Text} : r.symbols = Markup.ofText t → '<' ∉ t → IsPlain (.run r)
  | tag {t : Tag} {content : Text} :
      t.content = Markup.ofText content → (∀ c ∈ content, c ≠ '<' ∧ c ≠ '>') → IsPlain (.tag t)

theorem Cuts.isPlain {start : Nat} {m : Markup} {l : List Lexeme} (h : Cuts start m l) {t : Text}
    (hm : m = Markup.ofText t) : ∀ x ∈ l, x.IsPlain := by
  have hrun : ∀ {t : Text} {start : Nat}, (∀ x ∈ Markup.ofText t, x ≠ .char '<') →
      (Lexeme.run ⟨start, Markup.ofText t⟩).IsPlain := fun htext =>
    .run rfl fun hmem => Markup.forall_mem_ofText.mp htext _ hmem rfl
  induction h generalizing t with
  | last htext =>
    subst hm
    intro x hx
    rw [List.mem_singleton.mp hx]
    exact hrun htext
  | tag htext hcontent _ ih =>
    obtain ⟨text, _, rfl, rfl, h₁⟩ := List.map_eq_append_iff.mp hm.symm
    obtain ⟨_, _, rfl, -, h₂⟩ := List.map_eq_cons_iff.mp h₁
    obtain ⟨content, _, rfl, rfl, h₃⟩ := List.map_eq_append_iff.mp h₂
    obtain ⟨_, rest, rfl, -, hrest⟩ := List.map_eq_cons_iff.mp h₃
    have htag : ∀ c ∈ content, c ≠ '<' ∧ c ≠ '>' := by
      simpa using Markup.forall_mem_ofText.mp hcontent
    exact List.forall_mem_cons.mpr
      ⟨hrun htext, List.forall_mem_cons.mpr ⟨.tag rfl htag, ih hrest.symm⟩⟩

/-! ## Heads -/

variable [NumberFormat]

/-- The head of an opening tag without slots can be written. -/
theorem Tag.Opens.isWritable [Alphabet] {t : Tag} {opening : OpeningTag} {closed : Bool}
    (h : t.Opens opening closed) (ht : (Lexeme.tag t).IsPlain) {b : Bindings}
    {head : Head Unit Text} (hhead : Tree.evaluateHead b (opening.head t.span) = .ok head) :
    head.IsWritable ∧ head.tag = opening.name := by
  cases ht with
  | @tag _ content hcontent hbracket =>
    have hspells := OpeningTag.read_eq_ok_iff.mp h.2
    rw [hcontent] at hspells
    obtain ⟨settings, hsettings, hall⟩ := hspells.exists_settings
    have hslot : ∀ setting ∈ settings, ∀ s, .slot s ∉ setting.2 := by
      intro setting hsetting s hs
      exact Markup.slot_notMem_ofText s _ ((hall setting hsetting).subset hs)
    have hnone : opening.key = none := by
      rw [hsettings, OpeningTag.ofSettings, OpeningTag.foldl_withSetting_of_static hslot]
      rfl
    obtain ⟨htag, hkey, hentries⟩ := (Tree.evaluateHead_eq_ok_iff hnone).mp hhead
    -- Every attribute is the text of a value in the tag.
    have hentry : ∀ e ∈ head.attributes.entries,
        ∃ setting ∈ settings, e.1 = setting.1 ∧ Markup.ofText e.2 = setting.2 := by
      intro e he
      obtain ⟨e', he', hname, hvalue⟩ :=
        exists_of_forall₂ (Tree.forall₂_of_evaluateEntries hentries) he
      have hmem : e' ∈ opening.values := List.mem_append_right _ he'
      rw [hsettings] at hmem
      obtain ⟨setting, hsetting, rfl⟩ := OpeningTag.mem_values_ofSettings hmem
      refine ⟨setting, hsetting, hname, ?_⟩
      rw [Interpolation.ofText_of_resolve hvalue, Interpolation.symbols_ofMarkup,
        Markup.fill_eq_self (hslot setting hsetting)]
    refine ⟨⟨hkey, ?_, ?_, ?_⟩, htag⟩
    · rw [htag]
      exact hspells.isTagName
    · intro e he
      obtain ⟨setting, hsetting, hname, -⟩ := hentry e he
      rw [hname]
      exact (hall setting hsetting).attributeName
    · intro e he
      obtain ⟨setting, hsetting, -, hvalue⟩ := hentry e he
      have hchar : ∀ c ∈ e.2, .char c ∈ setting.2 := fun c hc => by
        rw [← hvalue]
        exact Markup.char_mem_ofText.mpr hc
      refine ⟨fun c hc => ?_, ?_⟩
      · have hmem := (hall setting hsetting).subset (hchar c hc)
        exact hbracket c (Markup.char_mem_ofText.mp hmem)
      · exact (hall setting hsetting).no_quote.imp (fun h hc => h (hchar _ hc))
          (fun h hc => h (hchar _ hc))

/-! ## Runs -/

theorem Run.isBody {r : Run} (h : (Lexeme.run r).IsPlain) (hr : r.isBlank = false) {b : Bindings}
    {body : Text} (hbody : r.text.resolve b = .ok body) : body.IsBody := by
  cases h with
  | @run _ t hsymbols hbracket =>
    -- The body is the text of the run without line breaks and without white space at its ends.
    have hbody : body
        = Text.trimEnd (Text.trimStart (t.filter (!Interpolation.isLineBreak ·))) := by
      apply Markup.ofText_injective
      rw [Interpolation.ofText_of_resolve hbody, symbols_text, hsymbols, Markup.normalized,
        Markup.filter_ofText, Markup.trimmed_ofText, Markup.fill_ofText]
    have hmem : ∀ c ∈ body, c ∈ t.filter (!Interpolation.isLineBreak ·) := by
      intro c hc
      rw [hbody, Text.trimEnd, dropWhileEnd_eq_rdropWhile] at hc
      exact (List.dropWhile_sublist _).subset ((List.rdropWhile_prefix _ _).subset hc)
    refine ⟨?_, ?_, fun hc => hbracket (List.mem_filter.mp (hmem _ hc)).1, ?_, ?_⟩
    · have hne := normalized_ne_nil hr
      rw [hsymbols, Markup.normalized, Markup.filter_ofText, Markup.trimmed_ofText, ← hbody] at hne
      rintro rfl
      exact hne rfl
    · rw [hbody]
      exact trim_trim _
    · intro hc
      cases (List.mem_filter.mp (hmem _ hc)).2
    · intro hc
      cases (List.mem_filter.mp (hmem _ hc)).2

/-! ## Elements -/

variable [Alphabet]

mutual
theorem IsElement.isWritable {l : List Lexeme} {tree : Tree} {e : Rendered} :
    IsElement dialect [] l tree → (∀ x ∈ l, x.IsPlain) → tree.evaluate .empty = .ok e →
      e.IsWritable dialect
  | .complete ho _, hl, heval => by
    obtain ⟨head, hhead, heval⟩ := bind_eq_ok.mp heval
    cases heval
    exact .nodes (ho.isWritable (hl _ List.mem_cons_self) hhead).1 (fun _ => rfl) .nil
  | .enclosing ho hd (.children hchildren) _, hl, heval => by
    obtain ⟨hopening, hl⟩ := List.forall_mem_cons.mp hl
    obtain ⟨head, hhead, heval⟩ := bind_eq_ok.mp heval
    obtain ⟨rs, hrs, heval⟩ := bind_eq_ok.mp heval
    cases heval
    obtain ⟨hwritable, htag⟩ := ho.isWritable hopening hhead
    refine .nodes hwritable (fun hvoid => ?_)
      (hchildren.areWritable (List.forall_mem_append.mp hl).1 hrs)
    rw [htag, hd] at hvoid
    cases hvoid
  | .enclosing ho hd (.text _ hr _) _, hl, heval => by
    obtain ⟨hopening, hl⟩ := List.forall_mem_cons.mp hl
    obtain ⟨head, hhead, heval⟩ := bind_eq_ok.mp heval
    obtain ⟨body, hbody, heval⟩ := bind_eq_ok.mp heval
    cases heval
    obtain ⟨hwritable, htag⟩ := ho.isWritable hopening hhead
    have hrun := (List.forall_mem_append.mp (List.forall_mem_append.mp hl).1).2 _
      (List.mem_singleton_self _)
    exact .text hwritable (htag ▸ hd) (Run.isBody hrun hr hbody)

theorem IsChildren.areWritable {l : List Lexeme} {children : List (Child Tree Slot)}
    {rs : List (Child Rendered Splice)} :
    IsChildren dialect [] l children → (∀ x ∈ l, x.IsPlain) →
      Tree.evaluateChildren .empty children = .ok rs → Rendered.AreWritable dialect rs
  | .nil, _, heval => by
    cases heval
    exact .nil
  | .element he hrest, hl, heval => by
    have hl := List.forall_mem_append.mp hl
    obtain ⟨r, hr, heval⟩ := bind_eq_ok.mp heval
    obtain ⟨rs, hrs, heval⟩ := bind_eq_ok.mp heval
    cases heval
    exact .element (he.isWritable hl.1 hr) (hrest.areWritable hl.2 hrs)
  | .void _ _ hrest, hl, heval => hrest.areWritable (List.forall_mem_cons.mp hl).2 heval
  | .blank _ hrest, hl, heval => hrest.areWritable (List.forall_mem_cons.mp hl).2 heval
  | .splice hs _, _, _ => by
    rw [Run.list?_eq_none (by simp)] at hs
    cases hs
end

namespace Engine

theorem isWritable_of_render {text : Text} {e : Rendered}
    (h : ((new dialect .plain ()).render [text] .empty).1 = .ok e) : e.IsWritable dialect := by
  obtain ⟨m, l, tree, hm, hl, hdocument, heval⟩ := render_new_eq_ok_iff.mp h
  cases hm
  have hplain := hl.isPlain rfl
  cases hdocument with
  | mk _ helement _ =>
    have hplain := List.forall_mem_append.mp (List.forall_mem_append.mp hplain).2
    exact helement.isWritable hplain.1 heval

/-- **The elements that templates without values render to are those that can be written**, and what
is written for an element, in any choice of quotes, renders back to it. -/
theorem render_static_iff (dialect : Dialect) (e : Rendered) :
    ((∃ text, ((new dialect .plain ()).render [text] .empty).1 = .ok e) ↔ e.IsWritable dialect) ∧
      ∀ q : Quoting, ((new dialect .plain ()).render [e.write dialect q] .empty).1 = .ok e ↔
        e.IsWritable dialect := by
  refine ⟨⟨?_, ?_⟩, fun q => ⟨isWritable_of_render, fun h => h.render_write q⟩⟩
  · rintro ⟨text, h⟩
    exact isWritable_of_render h
  · intro h
    exact ⟨e.write dialect .double, h.render_write .double⟩

end Engine

end MarkupTemplate
