import MarkupTemplate.Libraries
import MarkupTemplate.Proofs.TagFaults

/-!
# Where misreadings show

    markup ──cut──▶ runs, tags ──build──▶ a step that fails
                                  ╰──▶ lexemes that are read, and what is open behind them

Markup that is not read as a tree is at fault somewhere. `Misreading.Shows` says, in terms of runs
and tags, what each fault is and which part of the markup it points at, and `shows_of_ofMarkup` that
the reader reports no other faults.

The step that fails is the first one, so the lexemes in front of it are read, and `Reads` says what
the builder holds: which element is open is known from the lexemes alone.
-/

namespace MarkupTemplate

variable {dialect : Dialect} {shapes : List Shape}

/-! ## What is open -/

/-- The opening tag of the innermost element that is open behind some lexemes, if one is. -/
inductive Innermost [Alphabet] (dialect : Dialect) (shapes : List Shape) :
    List Lexeme → Option (Tag × OpeningTag) → Prop
  /-- The root element has not begun. -/
  | before {l : List Lexeme} : IsMargin dialect l → Innermost dialect shapes l none
  /-- The root element is complete. -/
  | behind {l : List Lexeme} {root : Tree} :
      IsDocument dialect shapes l root → Innermost dialect shapes l none
  /-- Behind a tag nothing else stays open. -/
  | inside {l inner : List Lexeme} {t : Tag} {opening : OpeningTag}
      {children : List (Child Tree Slot)} :
      t.Opens opening false → dialect.isVoid opening.name = false →
      IsChildren dialect shapes inner children →
      Innermost dialect shapes (l ++ .tag t :: inner) (some (t, opening))

namespace Reads

variable {l : List Lexeme}

variable [Alphabet]

/-- Below an open element there is no root yet. -/
theorem root_eq_none {frame : Frame} {below : List Frame} {root : Option Tree}
    (h : Reads dialect shapes l ⟨frame :: below, root⟩) : root = none := by
  cases h
  rfl

theorem isMargin (h : Reads dialect shapes l ⟨[], none⟩) : IsMargin dialect l := by
  cases h
  assumption

/-- The innermost frame of a builder is the innermost element that is open. -/
theorem exists_innermost {b : Builder} (h : Reads dialect shapes l b) :
    ∃ o, Innermost dialect shapes l o ∧
      b.stack.head?.map Frame.head = o.map fun p => p.2.head p.1.span := by
  cases h with
  | margin hl => exact ⟨none, .before hl, rfl⟩
  | root hbefore he hafter => exact ⟨none, .behind (.mk hbefore he hafter), rfl⟩
  | @inside l inner stack t opening children hl ho hv hc =>
    exact ⟨some (t, opening), .inside ho hv hc, rfl⟩

end Reads

/-! ## Faults -/

/-- Whether a text is what is left of a run without the white space around it. -/
structure Run.Trims (r : Run) (front text back : Markup) : Prop where
  symbols_eq : r.symbols = front ++ (text ++ back)
  front_blank : ∀ x ∈ front, OpeningTag.isBlankSymbol x = true
  back_blank : ∀ x ∈ back, OpeningTag.isBlankSymbol x = true
  ne_nil : text ≠ []
  head_not_blank : ∀ x ∈ text.head?, OpeningTag.isBlankSymbol x = false
  last_not_blank : ∀ x ∈ text.getLast?, OpeningTag.isBlankSymbol x = false

/-- What a fault of some markup is, and which part of the markup it points at. -/
inductive Misreading.Shows [Alphabet] (dialect : Dialect) (shapes : List Shape) (m : Markup) :
    Misreading → Prop
  /-- A run that has no place, without the white space around it. -/
  | strayText {l : List Lexeme} {r : Run} {o : Option (Tag × OpeningTag)}
      {front text back : Markup} :
      HasRun 0 m l r → Innermost dialect shapes l o → r.Trims front text back →
      Shows dialect shapes m ⟨.strayText o.isSome,
        ⟨r.start + front.byteLength, r.start + front.byteLength + text.byteLength⟩⟩
  /-- The tag of an element that is still open at the end. -/
  | unclosedTag {l : List Lexeme} {r : Run} {t : Tag} {opening : OpeningTag} :
      Cuts 0 m (l ++ [.run r]) → Innermost dialect shapes l (some (t, opening)) →
      Shows dialect shapes m ⟨.unclosedTag opening.name, t.span⟩
  /-- A closing tag that names another element than the innermost one. -/
  | mismatchedTag {l : List Lexeme} {r : Run} {t : Tag} {name : Text}
      {o : Option (Tag × OpeningTag)} :
      HasTag 0 m l r t → t.closing? = some name → dialect.isVoid name = false →
      Innermost dialect shapes l o → (∀ p ∈ o, p.2.name ≠ name) →
      Shows dialect shapes m ⟨.mismatchedTag (o.map fun p => p.2.name), t.span⟩
  /-- An opening tag behind the root element. -/
  | multipleRoots {l : List Lexeme} {r : Run} {t : Tag} {opening : OpeningTag} {closed : Bool}
      {root : Tree} :
      HasTag 0 m l r t → t.Opens opening closed →
      IsDocument dialect shapes (l ++ [.run r]) root →
      Shows dialect shapes m ⟨.multipleRoots, t.span⟩
  /-- A tag that does not end. -/
  | unterminatedTag {s : Span} : HasOpenTag 0 m s → Shows dialect shapes m ⟨.unterminatedTag, s⟩
  /-- A part of an opening tag that cannot be read. -/
  | inTag {l : List Lexeme} {r : Run} {t : Tag} {e : Misreading} :
      HasTag 0 m l r t → t.closing? = none → OpeningTag.read t.span t.content = .error e →
      t.Shows e → Shows dialect shapes m e
  /-- The whole markup, where it has no element. -/
  | missingRoot {l : List Lexeme} :
      Cuts 0 m l → IsMargin dialect l →
      Shows dialect shapes m ⟨.missingRoot, ⟨0, m.byteLength⟩⟩

theorem Innermost.mem_tagsOf [Alphabet] {l : List Lexeme} {t : Tag} {opening : OpeningTag}
    (h : Innermost dialect shapes l (some (t, opening))) : t ∈ tagsOf l := by
  cases h with
  | inside => simp

variable {m : Markup} {e : Misreading}

/-- A fault points at a part of the markup. -/
theorem Misreading.Shows.exists_covers [Alphabet] (h : e.Shows dialect shapes m) :
    ∃ part, e.span.Covers 0 m part := by
  have htag : ∀ {l r t}, HasTag 0 m l r t → ∃ part, t.span.Covers 0 m part :=
    fun h => ⟨_, h.standsIn.covers⟩
  cases h with
  | strayText hrun _ htrims => exact ⟨_, hrun.covers htrims.symbols_eq⟩
  | @unclosedTag l r t opening hcuts hopen =>
    have ht : t ∈ tagsOf (l ++ [.run r]) := by
      rw [tagsOf_append]
      exact List.mem_append_left _ hopen.mem_tagsOf
    exact ⟨_, (hcuts.standsIn t ht).covers⟩
  | mismatchedTag h => exact htag h
  | multipleRoots h => exact htag h
  | unterminatedTag h => exact h.exists_covers
  | inTag h _ _ hshows =>
    obtain ⟨part, hcovers⟩ := hshows.exists_covers
    exact ⟨part, h.standsIn.covers.trans hcovers⟩
  | missingRoot =>
    have := Span.covers_self 0 m
    rw [Nat.zero_add] at this
    exact ⟨m, this⟩

/-! ## Steps that fail -/

/-- What a stray run is at fault with is what is left of it without white space. -/
theorem Run.exists_trims {r : Run} (h : r.isBlank = false) :
    ∃ front text back, r.Trims front text back ∧ r.trimmedSpan =
      ⟨r.start + front.byteLength, r.start + front.byteLength + text.byteLength⟩ := by
  obtain ⟨back, hsymbols, hback⟩ := exists_eq_append_trim (p := OpeningTag.isBlankSymbol) r.symbols
  have hfront : ∀ x ∈ r.symbols.takeWhile OpeningTag.isBlankSymbol,
      OpeningTag.isBlankSymbol x = true := fun x hx => List.mem_takeWhile_imp hx
  refine ⟨r.symbols.takeWhile OpeningTag.isBlankSymbol, r.symbols.trimmed, back,
    ⟨hsymbols, hfront, hback, ?_, Markup.head?_trimmed _, Markup.getLast?_trimmed _⟩, rfl⟩
  intro hnil
  have hblank : ∀ x ∈ r.symbols, OpeningTag.isBlankSymbol x = true := by
    rw [hsymbols, show dropWhileEnd _ _ = [] from hnil]
    exact List.forall_mem_append.mpr ⟨hfront, hback⟩
  rw [show r.isBlank = true from List.all_eq_true.mpr hblank] at h
  cases h

namespace Reads

variable {l : List Lexeme} {b b' : Builder} {r : Run} {t : Tag}

variable [Alphabet]

theorem shows_strayText (h : Reads dialect shapes l b) (hrun : HasRun 0 m l r)
    (hr : r.isBlank = false) : (b.strayText r).Shows dialect shapes m := by
  obtain ⟨o, hopen, hstack⟩ := h.exists_innermost
  obtain ⟨front, text, back, htrims, hspan⟩ := r.exists_trims hr
  have hinside : (!b.stack.isEmpty) = o.isSome := by
    have := congrArg Option.isSome hstack
    rw [Option.isSome_map, Option.isSome_map] at this
    rw [← this]
    cases b.stack <;> rfl
  rw [Builder.strayText, hinside, hspan]
  exact .strayText hrun hopen htrims

theorem shows_of_place (h : Reads dialect shapes l b) (hrun : HasRun 0 m l r) {closing : Bool}
    (hp : b.place shapes r closing = .error e) : e.Shows dialect shapes m := by
  obtain ⟨hr, rfl⟩ := Builder.place_eq_error hp
  exact h.shows_strayText hrun hr

theorem shows_of_openTag (h : Reads dialect shapes (l ++ [.run r]) b) (htag : HasTag 0 m l r t)
    (ht : t.closing? = none) (ho : b.openTag dialect t = .error e) : e.Shows dialect shapes m := by
  rcases bind_eq_error.mp ho with hread | ⟨⟨opening, closed⟩, hread, -⟩
  · exact .inTag htag ht hread (.of_read hread)
  · obtain ⟨root, rfl, rfl⟩ := Builder.openTag_of_read_eq_error hread ho
    exact .multipleRoots htag ⟨ht, hread⟩ h.isDocument

theorem shows_of_closeTag (h : Reads dialect shapes l b) (htag : HasTag 0 m l r t) {name : Text}
    (ht : t.closing? = some name)
    (hc : b.closeTag dialect shapes r t.span name = .error e) : e.Shows dialect shapes m := by
  obtain ⟨o, hopen, hstack⟩ := h.exists_innermost
  obtain ⟨stack, root⟩ := b
  cases stack with
  | nil =>
    obtain rfl : o = none := by simpa using hstack.symm
    rw [Builder.closeTag_nil] at hc
    split at hc
    · exact h.shows_of_place htag.hasRun hc
    · next hvoid =>
      cases hc
      exact .mismatchedTag htag ht (by simpa using hvoid) hopen (by simp)
  | cons frame below =>
    rw [Builder.closeTag_cons] at hc
    split at hc
    · rcases bind_eq_error.mp hc with hp | ⟨b₁, hp, hattach⟩
      · exact h.shows_of_place htag.hasRun hp
      · -- Below an open element there is no root, so a complete one finds its place.
        have hroot : b₁.root = none := (Builder.place_eq_ok hp).root_eq.trans h.root_eq_none
        split at hattach
        · obtain ⟨root, hb, -⟩ := Builder.attach_eq_error hattach
          rw [show b₁.root = some root from congrArg Builder.root hb] at hroot
          cases hroot
        · cases hattach
    · next hname =>
      split at hc
      · exact h.shows_of_place htag.hasRun hc
      · next hvoid =>
        cases hc
        obtain ⟨⟨t₀, opening⟩, rfl, hhead⟩ := Option.map_eq_some_iff.mp hstack.symm
        have hne : opening.name ≠ name := by
          rintro rfl
          exact hname (congrArg Head.tag hhead).symm
        rw [← hhead]
        exact .mismatchedTag htag ht (by simpa using hvoid) hopen (by simpa using hne)

/-- **One step**: if it fails, that is the fault of the run or of the tag. -/
theorem shows_of_step (h : Reads dialect shapes l b) (htag : HasTag 0 m l r t)
    (hs : b.step dialect shapes (r, t) = .error e) : e.Shows dialect shapes m := by
  cases ht : t.closing? with
  | some name =>
    rw [Builder.step_of_closing? ht] at hs
    exact h.shows_of_closeTag htag ht hs
  | none =>
    rw [Builder.step_of_opening ht] at hs
    rcases bind_eq_error.mp hs with hp | ⟨b₁, hp, ho⟩
    · exact h.shows_of_place htag.hasRun hp
    · exact (h.place hp).shows_of_openTag htag ht ho

/-- At the end the fault is that of the last run, or of a tag that is still open. -/
theorem shows_of_finish (h : Reads dialect shapes (lexemes (Cutting.ofMarkup 0 m).tags) b)
    (hf : b.finish m.byteLength (Cutting.ofMarkup 0 m).ending = .error e) :
    e.Shows dialect shapes m := by
  obtain ⟨stack, root⟩ := b
  cases hending : (Cutting.ofMarkup 0 m).ending with
  | unterminated span =>
    rw [hending] at hf
    cases hf
    exact .unterminatedTag (Cutting.hasOpenTag hending)
  | run last =>
    rw [hending] at hf
    cases stack with
    | cons frame below =>
      cases hf
      obtain ⟨o, hopen, hstack⟩ := h.exists_innermost
      obtain ⟨⟨t, opening⟩, rfl, hhead⟩ := Option.map_eq_some_iff.mp hstack.symm
      rw [← hhead]
      exact .unclosedTag (Cutting.cuts_of_ending hending) hopen
    | nil =>
      simp only [Builder.finish] at hf
      split at hf
      · next hblank =>
        cases root with
        | some root => cases hf
        | none =>
          cases hf
          exact .missingRoot (Cutting.cuts_of_ending hending)
            (h.isMargin.append (.blank hblank .nil))
      · next hblank =>
        cases hf
        exact h.shows_strayText (Cutting.hasRun hending) (by simpa using hblank)

end Reads

/-! ## The whole markup -/

/-- What the reader finds wrong with markup shows there. -/
theorem Tree.shows_of_ofMarkup [Alphabet] (h : ofMarkup dialect shapes m = .error e) :
    e.Shows dialect shapes m := by
  rcases bind_eq_error.mp h with hstep | ⟨b, hb, hfinish⟩
  · obtain ⟨done, ⟨r, t⟩, later, b, htags, hb, hs⟩ := foldlM_eq_error hstep
    have hreads : Reads dialect shapes (lexemes done) b :=
      Builder.reads_foldlM (l := []) (.margin .nil) hb
    exact hreads.shows_of_step (Cutting.hasTag htags) hs
  · have hreads : Reads dialect shapes (lexemes (Cutting.ofMarkup 0 m).tags) b :=
      Builder.reads_foldlM (l := []) (.margin .nil) hb
    exact hreads.shows_of_finish hfinish

namespace Misreading

/-- **Misreadings show in the markup.** If markup is not read as a tree, then the reader reports one
of the faults that `Shows` describes, with a span that is in the text of the markup. The template is
not compiled then, and the fault that is reported has that place. -/
theorem shows_and_isIn [Alphabet] (h : Tree.ofMarkup dialect shapes m = .error e) :
    e.Shows dialect shapes m ∧ e.span.IsIn m.text ∧
      ∀ key, ∃ fault, Template.compile dialect shapes key m = .error fault ∧
        fault.cause = e.cause ∧ fault.place = some ⟨m.text, e.span⟩ := by
  have hshows := Tree.shows_of_ofMarkup h
  obtain ⟨part, hcovers⟩ := hshows.exists_covers
  refine ⟨hshows, hcovers.isIn, fun key => ?_⟩
  refine ⟨(Fault.ofSpan m.text e.span e.cause).named key, ?_, Fault.cause_named _ key,
    Fault.place_named _ key⟩
  rw [Template.compile_eq, h]

/-- The name of an attribute that is no name, behind a quoted value and a read. -/
theorem shows_and_isIn_attribute :
    Tree.ofMarkup .standard [.scalar]
        (Markup.interleave 0 [txt "<p lang='é' x=", txt " 1=2/></p>"]) =
      .error ⟨.invalidName .ofAttribute, ⟨18, 22⟩⟩ ∧
    Shows .standard [.scalar] (Markup.interleave 0 [txt "<p lang='é' x=", txt " 1=2/></p>"])
      ⟨.invalidName .ofAttribute, ⟨18, 22⟩⟩ ∧
    Span.IsIn ⟨18, 22⟩ (txt "<p lang='é' x=$1 1=2/></p>") ∧
    ∀ key, ∃ fault,
      Template.compile .standard [.scalar] key
          (Markup.interleave 0 [txt "<p lang='é' x=", txt " 1=2/></p>"]) = .error fault ∧
        fault.cause = .invalidName .ofAttribute ∧
        fault.place = some ⟨txt "<p lang='é' x=$1 1=2/></p>", ⟨18, 22⟩⟩ := by
  have h : Tree.ofMarkup .standard [.scalar]
      (Markup.interleave 0 [txt "<p lang='é' x=", txt " 1=2/></p>"]) =
        .error ⟨.invalidName .ofAttribute, ⟨18, 22⟩⟩ := by
    apply map_eq_error (f := fun _ => ()).mp
    decide +kernel
  exact ⟨h, shows_and_isIn h⟩

end Misreading

end MarkupTemplate
