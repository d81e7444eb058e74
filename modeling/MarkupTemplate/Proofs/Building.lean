import MarkupTemplate.Proofs.Grammar

/-!
# What the builder does with a run and a tag

`Builder.place` decides what becomes of the run of text before a tag. This module says once what it
can do (`place_eq_ok`) and when it succeeds (`place_of_isBlank`, `place_of_list?`, `place_of_text`),
in the terms of the grammar: the builder looks for list slots in the normal form of a run, and
`splice?_text` says that these are the list slots of the run itself. The steps for opening and
closing tags follow, each as an equation.
-/

namespace MarkupTemplate

/-! ## What a normal form reads -/

namespace Interpolation

@[simp] theorem reads_nil : reads [] = [] := rfl

@[simp] theorem reads_cons (p : Piece) (i : Interpolation) :
    reads (p :: i) = p.slot?.toList ++ reads i := by
  cases p <;> rfl

@[simp] theorem slot?_mapLiteral (f : Text → Text) (p : Piece) :
    (p.mapLiteral f).slot? = p.slot? := by
  cases p <;> rfl

theorem reads_consSymbol (x : Symbol) (i : Interpolation) :
    reads (cons x i) = x.slot?.toList ++ reads i := by
  cases x with
  | slot s => rfl
  | char c =>
    cases i with
    | nil => rfl
    | cons p i => cases p <;> rfl

/-- Cutting markup into pieces keeps its slots. -/
theorem reads_ofMarkup (m : Markup) : reads (ofMarkup m) = m.slots := by
  induction m with
  | nil => rfl
  | cons x m ih =>
    show reads (cons x (ofMarkup m)) = _
    rw [reads_consSymbol, ih]
    cases x <;> rfl

theorem reads_map_mapLiteral (f : Text → Text) (i : Interpolation) :
    reads (i.map (Piece.mapLiteral f)) = reads i := by
  induction i with
  | nil => rfl
  | cons p i ih => rw [List.map_cons, reads_cons, reads_cons, slot?_mapLiteral, ih]

theorem reads_mapFirst (f : Text → Text) (i : Interpolation) : reads (mapFirst f i) = reads i := by
  cases i with
  | nil => rfl
  | cons p i => rw [mapFirst, reads_cons, reads_cons, slot?_mapLiteral]

theorem reads_mapLast (f : Text → Text) (i : Interpolation) : reads (mapLast f i) = reads i := by
  fun_induction mapLast f i with
  | case1 => rfl
  | case2 p => simp
  | case3 p i hne ih => rw [reads_cons, reads_cons, ih]

theorem reads_filter_isEmpty (i : Interpolation) : reads (i.filter (!·.isEmpty)) = reads i := by
  induction i with
  | nil => rfl
  | cons p i ih =>
    cases p with
    | read s => simpa [Piece.isEmpty] using ih
    | literal t =>
      by_cases ht : t = [] <;> simpa [Piece.isEmpty, Piece.slot?, ht] using ih

/-- The normal form of a text reads what the text reads. -/
theorem reads_normalized (i : Interpolation) : reads i.normalized = reads i := by
  rw [normalized, reads_filter_isEmpty, reads_mapLast, reads_mapFirst, reads_map_mapLiteral]

end Interpolation

theorem Run.reads_text (r : Run) : r.text.reads = r.slots := by
  rw [Run.text, Interpolation.reads_normalized, Interpolation.reads_ofMarkup]
  rfl

theorem Run.slots_of_isBlank {r : Run} (h : r.isBlank = true) : r.slots = [] := by
  rw [List.eq_nil_iff_forall_not_mem]
  intro s hs
  have := List.all_eq_true.mp h _ (Markup.mem_slots.mp hs)
  cases this

/-- Without lists among the values no run is a splice. -/
theorem Run.list?_eq_none {shapes : List Shape} {r : Run}
    (h : ∀ shape ∈ shapes, shape = .scalar) : r.list? shapes = none := by
  rw [list?, List.find?_eq_none]
  intro slot _ hlist
  have hmem := List.mem_of_getElem? (of_decide_eq_true hlist)
  cases h _ hmem

namespace Builder

variable {dialect : Dialect} {shapes : List Shape}

theorem splice?_text (shapes : List Shape) (r : Run) : splice? shapes r.text = r.list? shapes := by
  rw [splice?, Run.reads_text, Run.list?]

/-! ## What placing a run can do -/

theorem place_eq [Alphabet] (b : Builder) (r : Run) (closing : Bool) :
    place shapes b r closing =
      if r.isBlank then .ok b
      else
        match b.stack, splice? shapes r.text with
        | [], _ => .error (b.strayText r)
        | frame :: below, some slot => .ok { b with stack := frame.push (.splice slot) :: below }
        | frame :: below, none =>
          if closing ∧ frame.content.isEmpty then
            .ok { b with stack := { frame with content := .text r.text } :: below }
          else .error (b.strayText r) := rfl

theorem place_of_isBlank [Alphabet] (b : Builder) {r : Run} (h : r.isBlank = true)
    (closing : Bool) :
    place shapes b r closing = .ok b := by
  rw [place_eq, if_pos h]

theorem isBlank_eq_false_of_list? {r : Run} {slot : Slot} (h : r.list? shapes = some slot) :
    r.isBlank = false := by
  have hmem : slot ∈ r.slots := List.mem_of_find?_eq_some h
  rw [← Bool.not_eq_true]
  intro hblank
  rw [Run.slots_of_isBlank hblank] at hmem
  cases hmem

section

variable [Alphabet]

theorem place_of_list? {head : Frame} {below : List Frame} {root : Option Tree} {r : Run}
    {slot : Slot} (h : r.list? shapes = some slot) (closing : Bool) :
    place shapes ⟨head :: below, root⟩ r closing
      = .ok ⟨head.push (.splice slot) :: below, root⟩ := by
  rw [place_eq, if_neg (by simp [isBlank_eq_false_of_list? h]), splice?_text, h]

theorem place_of_text {frame : Frame} {below : List Frame} {root : Option Tree} {r : Run}
    (hr : r.isBlank = false) (hs : r.list? shapes = none) (hc : frame.content.isEmpty = true) :
    place shapes ⟨frame :: below, root⟩ r true
      = .ok ⟨{ frame with content := .text r.text } :: below, root⟩ := by
  rw [place_eq, if_neg (by simp [hr]), splice?_text, hs]
  simp only [hc]
  rfl

/-- A run that is neither blank nor the place of a list has a place only as the whole content of an
element. -/
theorem place_of_stray {b : Builder} {r : Run} {closing : Bool} (hr : r.isBlank = false)
    (h : ∀ frame ∈ b.stack.head?, r.list? shapes = none ∧
      (closing = false ∨ frame.content.isEmpty = false)) :
    place shapes b r closing = .error (b.strayText r) := by
  obtain ⟨stack, root⟩ := b
  rw [place_eq, if_neg (by simp [hr])]
  cases stack with
  | nil => rfl
  | cons frame below =>
    obtain ⟨hs, hc⟩ := h frame rfl
    rw [splice?_text, hs]
    dsimp only
    rw [if_neg]
    rintro ⟨hclosing, hempty⟩
    rcases hc with hc | hc
    · rw [hclosing] at hc
      cases hc
    · rw [hempty] at hc
      cases hc

end

/-- What a builder becomes when it finds the place of a run. -/
inductive Placed (shapes : List Shape) (b : Builder) (r : Run) (closing : Bool) : Builder → Prop
  | blank : r.isBlank = true → Placed shapes b r closing b
  | splice {frame : Frame} {below : List Frame} {slot : Slot} :
      b.stack = frame :: below → r.list? shapes = some slot →
      Placed shapes b r closing ⟨frame.push (.splice slot) :: below, b.root⟩
  | text {frame : Frame} {below : List Frame} :
      b.stack = frame :: below → r.isBlank = false → r.list? shapes = none → closing = true →
      frame.content.isEmpty = true →
      Placed shapes b r closing ⟨{ frame with content := .text r.text } :: below, b.root⟩

theorem place_eq_ok [Alphabet] {b b' : Builder} {r : Run} {closing : Bool}
    (h : place shapes b r closing = .ok b') : Placed shapes b r closing b' := by
  rw [place_eq] at h
  split at h
  · next hr =>
    cases h
    exact .blank hr
  · next hr =>
    have hr : r.isBlank = false := by simpa using hr
    obtain ⟨stack, root⟩ := b
    cases stack with
    | nil => cases h
    | cons frame below =>
      simp only [splice?_text] at h
      cases hl : r.list? shapes with
      | some slot =>
        simp only [hl] at h
        cases h
        exact .splice rfl hl
      | none =>
        simp only [hl] at h
        split at h
        · next hc =>
          cases h
          exact .text rfl hr hl hc.1 hc.2
        · cases h

/-- A run of text without a place is stray. -/
theorem place_eq_error [Alphabet] {b : Builder} {r : Run} {closing : Bool} {e : Misreading}
    (h : place shapes b r closing = .error e) : r.isBlank = false ∧ e = b.strayText r := by
  rw [place_eq] at h
  split at h
  · cases h
  · next hr =>
    refine ⟨by simpa using hr, ?_⟩
    split at h
    · exact (Except.error.inj h).symm
    · cases h
    · split at h
      · cases h
      · exact (Except.error.inj h).symm

/-- Finding the place of a run leaves the root as it is. -/
theorem Placed.root_eq {b b' : Builder} {r : Run} {closing : Bool}
    (h : Placed shapes b r closing b') : b'.root = b.root := by
  cases h <;> rfl

/-! ## Tags -/

/-- Only a second root has no place. -/
theorem attach_eq_error {b : Builder} {tree : Tree} {e : Misreading}
    (h : b.attach tree = .error e) :
    ∃ root, b = ⟨[], some root⟩ ∧ e = ⟨.multipleRoots, tree.head.origin⟩ := by
  obtain ⟨stack, root⟩ := b
  cases stack with
  | cons frame below => cases h
  | nil =>
    cases root with
    | none => cases h
    | some root => exact ⟨root, rfl, (Except.error.inj h).symm⟩

theorem stepBy_of_closing? (reading : Reading) {t : Tag} {name : Text}
    (h : t.closing? = some name) (b : Builder) (r : Run) :
    b.stepBy reading dialect shapes (r, t)
      = b.closeTagBy reading dialect shapes r t.span name := by
  rw [Tag.closing?] at h
  split at h
  · next hcontent =>
    cases h
    simp only [stepBy, hcontent]
  · cases h

theorem stepBy_of_opening (reading : Reading) {t : Tag} (h : t.closing? = none) (b : Builder)
    (r : Run) :
    b.stepBy reading dialect shapes (r, t)
      = (do openTagBy reading dialect (← b.placeBy reading shapes r false) t) := by
  rw [Tag.closing?] at h
  split at h
  · cases h
  · next hcontent =>
    rw [stepBy]
    split
    · next hslash => exact absurd hslash (hcontent _)
    · rfl

variable [Alphabet]

theorem step_of_closing? {t : Tag} {name : Text} (h : t.closing? = some name) (b : Builder)
    (r : Run) : b.step dialect shapes (r, t) = b.closeTag dialect shapes r t.span name :=
  stepBy_of_closing? .ofSymbols h b r

theorem step_of_opening {t : Tag} (h : t.closing? = none) (b : Builder) (r : Run) :
    b.step dialect shapes (r, t) = (do openTag dialect (← b.place shapes r false) t) :=
  stepBy_of_opening .ofSymbols h b r

theorem openTag_of_read {t : Tag} {opening : OpeningTag} {closed : Bool}
    (h : OpeningTag.read t.span t.content = .ok (opening, closed)) (b : Builder) :
    b.openTag dialect t =
      if closed || dialect.isVoid opening.name then
        b.attach (.mk (opening.head t.span) (.nodes []))
      else if b.stack.isEmpty && b.root.isSome then .error ⟨.multipleRoots, t.span⟩
      else .ok ⟨⟨opening.head t.span, .nodes []⟩ :: b.stack, b.root⟩ := by
  show openTagBy .ofSymbols dialect b t = _
  rw [openTagBy, show Reading.ofSymbols.tag t = _ from h]
  rfl

/-- An opening tag that is read has no place behind the root. -/
theorem openTag_of_read_eq_error {t : Tag} {opening : OpeningTag} {closed : Bool}
    (hread : OpeningTag.read t.span t.content = .ok (opening, closed)) {b : Builder}
    {e : Misreading} (h : b.openTag dialect t = .error e) :
    ∃ root, b = ⟨[], some root⟩ ∧ e = ⟨.multipleRoots, t.span⟩ := by
  rw [openTag_of_read hread] at h
  split at h
  · exact attach_eq_error h
  · split at h
    · next hc =>
      obtain ⟨stack, root⟩ := b
      simp only [Bool.and_eq_true, List.isEmpty_iff, Option.isSome_iff_exists] at hc
      obtain ⟨rfl, root, rfl⟩ := hc
      exact ⟨root, rfl, (Except.error.inj h).symm⟩
    · cases h

theorem closeTag_cons (frame : Frame) (below : List Frame) (root : Option Tree) (r : Run)
    (span : Span) (name : Text) :
    closeTag dialect shapes ⟨frame :: below, root⟩ r span name =
      if frame.head.tag = name then do
        let b ← place shapes ⟨frame :: below, root⟩ r true
        match b.stack with
        | frame :: below => attach { b with stack := below } frame.close
        | [] => return b
      else if dialect.isVoid name then place shapes ⟨frame :: below, root⟩ r false
      else .error ⟨.mismatchedTag (some frame.head.tag), span⟩ := rfl

theorem closeTag_nil (root : Option Tree) (r : Run) (span : Span) (name : Text) :
    closeTag dialect shapes ⟨[], root⟩ r span name =
      if dialect.isVoid name then place shapes ⟨[], root⟩ r false
      else .error ⟨.mismatchedTag none, span⟩ := rfl

end Builder

/-- Markup is read tag by tag, and then the end of it. -/
theorem Tree.ofMarkup_eq [Alphabet] (dialect : Dialect) (shapes : List Shape) (m : Markup) :
    ofMarkup dialect shapes m = (do
      let builder ← (Cutting.ofMarkup 0 m).tags.foldlM (Builder.step dialect shapes) .initial
      builder.finish m.byteLength (Cutting.ofMarkup 0 m).ending) := rfl

end MarkupTemplate
