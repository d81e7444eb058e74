import MarkupTemplate.Proofs.Grammar
import MarkupTemplate.Proofs.Spelling

/-!
# The normal form of running text

    markup ──pieces──▶ text ──normalized──▶ content ──resolve──▶ the text of an element

The normal form of a text is made piece by piece: line breaks are dropped from every literal, white
space from the first and the last piece only. That this is the same as dropping them from the markup
depends on how markup is cut into pieces. No two literals stand side by side, so a piece that is
left empty has a read next to it, and a read is not white space. `symbols_normalized` says that the
normal form of markup is the markup without line breaks and without the white space at its ends.
-/

namespace MarkupTemplate

/-! ## Dropping from the end of a list -/

section DropWhileEnd

variable {α : Type} {p : α → Bool}

/-- A front stays as it is if something of the back does. -/
theorem dropWhileEnd_append (l r : List α) :
    dropWhileEnd p (l ++ r) =
      if dropWhileEnd p r = [] then dropWhileEnd p l else l ++ dropWhileEnd p r := by
  simp only [dropWhileEnd, List.reverse_append, List.dropWhile_append, List.isEmpty_iff,
    List.reverse_eq_nil_iff]
  split <;> simp

theorem dropWhileEnd_append_of_forall {l r : List α} (h : ∀ x ∈ r, p x = true) :
    dropWhileEnd p (l ++ r) = dropWhileEnd p l := by
  rw [dropWhileEnd_append, if_pos]
  rw [dropWhileEnd_eq_rdropWhile]
  exact List.rdropWhile_eq_nil_iff.mpr h

/-- Nothing is dropped behind an element without the property. -/
theorem dropWhileEnd_cons_of_neg {x : α} (hx : p x = false) (l : List α) :
    dropWhileEnd p (x :: l) = x :: dropWhileEnd p l := by
  rw [← List.singleton_append, dropWhileEnd_append]
  split
  · next hnil =>
    rw [hnil, dropWhileEnd_eq_rdropWhile, List.rdropWhile_singleton, if_neg (by simp [hx])]
  · rfl

/-- What does not have the property is not dropped. -/
theorem mem_dropWhile {l : List α} {x : α} (h : x ∈ l) (hx : p x = false) : x ∈ l.dropWhile p := by
  rw [← List.takeWhile_append_dropWhile (p := p) (l := l)] at h
  refine (List.mem_append.mp h).resolve_left fun htake => ?_
  rw [List.mem_takeWhile_imp htake] at hx
  cases hx

theorem mem_dropWhileEnd {l : List α} {x : α} (h : x ∈ l) (hx : p x = false) :
    x ∈ dropWhileEnd p l :=
  List.mem_reverse.mpr (mem_dropWhile (List.mem_reverse.mpr h) hx)

/-- What is trimmed stays as it is. -/
theorem trim_trim (l : List α) :
    dropWhileEnd p ((dropWhileEnd p (l.dropWhile p)).dropWhile p)
      = dropWhileEnd p (l.dropWhile p) := by
  cases hl : l.dropWhile p with
  | nil => rfl
  | cons x rest =>
    have hx : p x = false := (eq_append_of_dropWhile hl).2
    rw [dropWhileEnd_cons_of_neg hx, List.dropWhile_cons_of_neg (by simp [hx]),
      dropWhileEnd_cons_of_neg hx]
    simp only [dropWhileEnd_eq_rdropWhile, List.rdropWhile_idempotent]

/-- A list stands around what is trimmed of it with what has the property. -/
theorem exists_eq_append_trim (l : List α) :
    ∃ back, l = l.takeWhile p ++ (dropWhileEnd p (l.dropWhile p) ++ back) ∧
      ∀ x ∈ back, p x = true := by
  refine ⟨(l.dropWhile p).rtakeWhile p, ?_, fun x hx => List.mem_rtakeWhile_imp hx⟩
  rw [dropWhileEnd_eq_rdropWhile, List.rdropWhile_append_rtakeWhile,
    List.takeWhile_append_dropWhile]

/-- What is trimmed does not begin with what was dropped. -/
theorem head?_trim (l : List α) : ∀ x ∈ (dropWhileEnd p (l.dropWhile p)).head?, p x = false := by
  intro x hx
  cases hl : l.dropWhile p with
  | nil =>
    rw [hl] at hx
    cases hx
  | cons y rest =>
    have hy : p y = false := (eq_append_of_dropWhile hl).2
    rw [hl, dropWhileEnd_cons_of_neg hy] at hx
    cases hx
    exact hy

end DropWhileEnd

/-! ## Texts as markup -/

namespace Markup

open OpeningTag

theorem dropWhile_ofText (q : Char → Bool) (t : Text) :
    (ofText t).dropWhile (·.isCharWith q) = ofText (t.dropWhile q) :=
  List.dropWhile_map

theorem dropWhileEnd_ofText (q : Char → Bool) (t : Text) :
    dropWhileEnd (·.isCharWith q) (ofText t) = ofText (dropWhileEnd q t) := by
  rw [dropWhileEnd, dropWhileEnd, ofText, ofText, ← List.map_reverse, List.dropWhile_map,
    List.map_reverse]
  rfl

theorem filter_ofText (q : Char → Bool) (t : Text) :
    (ofText t).filter (!·.isCharWith q) = ofText (t.filter (!q ·)) :=
  List.filter_map

theorem trimmed_ofText (t : Text) :
    (ofText t).trimmed = ofText (Text.trimEnd (Text.trimStart t)) := by
  have hstart : (ofText t).dropWhile isBlankSymbol = ofText (Text.trimStart t) :=
    dropWhile_ofText isBlank t
  rw [trimmed, hstart]
  exact dropWhileEnd_ofText isBlank _

theorem ofText_injective {s t : Text} (h : ofText s = ofText t) : s = t := by
  rw [← text_ofText s, h, text_ofText]

/-- Markup without white space at its ends stays as it is. -/
theorem trimmed_eq_self {m : Markup} (hhead : ∀ x ∈ m.head?, isBlankSymbol x = false)
    (hlast : ∀ x ∈ m.getLast?, isBlankSymbol x = false) : m.trimmed = m := by
  have hstart : m.dropWhile isBlankSymbol = m := by
    cases m with
    | nil => rfl
    | cons x m => exact List.dropWhile_cons_of_neg (by simp [hhead x rfl])
  rw [trimmed, hstart, dropWhileEnd_eq_rdropWhile, List.rdropWhile_eq_self_iff]
  intro hne
  simp [hlast _ (List.getLast?_eq_some_getLast hne)]

/-- The last symbol keeps the white space in front of it if it is none itself. -/
theorem trimmed_concat {x : Symbol} (hx : isBlankSymbol x = false) (m : Markup) :
    trimmed (m ++ [x]) = m.dropWhile isBlankSymbol ++ [x] := by
  rw [trimmed, List.dropWhile_append]
  split
  · next hempty =>
    rw [List.isEmpty_iff.mp hempty, List.dropWhile_cons_of_neg (by simp [hx])]
    exact dropWhileEnd_cons_of_neg hx []
  · rw [dropWhileEnd_eq_rdropWhile, List.rdropWhile_concat_neg _ _ x (by simp [hx])]

theorem head?_trimmed (m : Markup) : ∀ x ∈ m.trimmed.head?, isBlankSymbol x = false :=
  head?_trim m

theorem getLast?_trimmed (m : Markup) : ∀ x ∈ m.trimmed.getLast?, isBlankSymbol x = false := by
  intro x hx
  rw [trimmed, dropWhileEnd_eq_rdropWhile] at hx
  obtain ⟨hne, rfl⟩ := List.mem_getLast?_eq_getLast hx
  simpa using List.rdropWhile_last_not isBlankSymbol _ hne

/-- Markup without line breaks, and without the white space at its ends. -/
def normalized (m : Markup) : Markup :=
  trimmed (m.filter (!·.isCharWith Interpolation.isLineBreak))

end Markup

/-! ## Pieces that stand apart -/

namespace Interpolation

open OpeningTag

@[simp] theorem symbols_literal_cons (t : Text) (i : Interpolation) :
    symbols (.literal t :: i) = Markup.ofText t ++ symbols i := rfl

@[simp] theorem symbols_read_cons (s : Slot) (i : Interpolation) :
    symbols (.read s :: i) = .slot s :: symbols i := rfl

/-- Line breaks are white space. -/
theorem isLineBreak_eq_false {c : Char} (h : isBlank c = false) : isLineBreak c = false := by
  rw [isLineBreak, Bool.or_eq_false_iff, decide_eq_false_iff_not, decide_eq_false_iff_not]
  constructor
  · rintro rfl
    cases h
  · rintro rfl
    cases h

/-- No two literals stand side by side. -/
inductive Apart : Interpolation → Prop
  | nil : Apart []
  | literal (t : Text) : Apart [.literal t]
  | read (s : Slot) {i : Interpolation} : Apart i → Apart (.read s :: i)
  | literal_read (t : Text) (s : Slot) {i : Interpolation} :
      Apart i → Apart (.literal t :: .read s :: i)

/-- A character joins the literal that it meets. -/
theorem Apart.cons {i : Interpolation} (h : Apart i) (x : Symbol) : Apart (cons x i) := by
  cases x with
  | slot s => exact .read s h
  | char c =>
    cases h with
    | nil => exact .literal [c]
    | literal t => exact .literal (c :: t)
    | read s h => exact .literal_read [c] s h
    | literal_read t s h => exact .literal_read (c :: t) s h

theorem apart_ofMarkup (m : Markup) : Apart (ofMarkup m) := by
  induction m with
  | nil => exact .nil
  | cons x m ih => exact ih.cons x

theorem Apart.map_mapLiteral {i : Interpolation} (h : Apart i) (f : Text → Text) :
    Apart (i.map (Piece.mapLiteral f)) := by
  induction h with
  | nil => exact .nil
  | literal t => exact .literal (f t)
  | read s _ ih => exact .read s ih
  | literal_read t s _ ih => exact .literal_read (f t) s ih

theorem Apart.mapFirst {i : Interpolation} (h : Apart i) (f : Text → Text) :
    Apart (mapFirst f i) := by
  cases h with
  | nil => exact .nil
  | literal t => exact .literal (f t)
  | read s h => exact .read s h
  | literal_read t s h => exact .literal_read (f t) s h

@[simp] theorem mapLast_read_cons (f : Text → Text) (s : Slot) (i : Interpolation) :
    mapLast f (.read s :: i) = .read s :: mapLast f i := by
  cases i <;> rfl

theorem Apart.mapLast {i : Interpolation} (h : Apart i) (f : Text → Text) :
    Apart (mapLast f i) := by
  induction h with
  | nil => exact .nil
  | literal t => exact .literal (f t)
  | read s _ ih =>
    rw [mapLast_read_cons]
    exact .read s ih
  | literal_read t s _ ih =>
    rw [Interpolation.mapLast, mapLast_read_cons]
    · exact .literal_read t s ih
    · exact List.cons_ne_nil _ _

/-- Reads keep literals apart, so nothing meets where a piece is left out. -/
theorem Apart.filter_isEmpty {i : Interpolation} (h : Apart i) :
    Apart (i.filter (!·.isEmpty)) := by
  induction h with
  | nil => exact .nil
  | literal t =>
    rw [List.filter_cons]
    split
    · exact .literal t
    · exact .nil
  | read s _ ih => exact .read s ih
  | literal_read t s _ ih =>
    rw [List.filter_cons]
    split
    · exact .literal_read t s ih
    · exact .read s ih

/-! ## The symbols of a normal form -/

theorem symbols_map_filter (q : Char → Bool) (i : Interpolation) :
    symbols (i.map (Piece.mapLiteral (·.filter (!q ·))))
      = (symbols i).filter (!·.isCharWith q) := by
  induction i with
  | nil => rfl
  | cons p i ih =>
    cases p with
    | literal t =>
      rw [symbols_literal_cons, List.filter_append, Markup.filter_ofText, ← ih]
      rfl
    | read s =>
      rw [symbols_read_cons, List.filter_cons_of_pos (by simp), ← ih]
      rfl

/-- White space in front of everything is in the first piece. -/
theorem Apart.symbols_mapFirst {i : Interpolation} (h : Apart i) :
    symbols (Interpolation.mapFirst Text.trimStart i) = (symbols i).dropWhile isBlankSymbol := by
  have hliteral : ∀ (t : Text) (rest : Markup), (∀ x ∈ rest.head?, isBlankSymbol x = false) →
      Markup.ofText (Text.trimStart t) ++ rest
        = (Markup.ofText t ++ rest).dropWhile isBlankSymbol := by
    intro t rest hrest
    have ht : (Markup.ofText t).dropWhile isBlankSymbol = Markup.ofText (Text.trimStart t) :=
      Markup.dropWhile_ofText isBlank t
    have hrest : rest.dropWhile isBlankSymbol = rest := by
      cases rest with
      | nil => rfl
      | cons x rest => exact List.dropWhile_cons_of_neg (by simp [hrest x rfl])
    rw [List.dropWhile_append, ht, hrest]
    split
    · next hempty => rw [List.isEmpty_iff.mp hempty, List.nil_append]
    · rfl
  cases h with
  | nil => rfl
  | literal t => exact hliteral t [] (by simp)
  | read s => rfl
  | literal_read t s =>
    apply hliteral t
    rintro x ⟨⟩
    rfl

/-- White space behind everything is in the last piece. -/
theorem Apart.symbols_mapLast {i : Interpolation} (h : Apart i) :
    symbols (Interpolation.mapLast Text.trimEnd i) = dropWhileEnd isBlankSymbol (symbols i) := by
  induction h with
  | nil => rfl
  | literal t =>
    show Markup.ofText (Text.trimEnd t) ++ [] = dropWhileEnd isBlankSymbol (Markup.ofText t ++ [])
    rw [List.append_nil, List.append_nil]
    exact (Markup.dropWhileEnd_ofText isBlank t).symm
  | read s _ ih =>
    rw [mapLast_read_cons, symbols_read_cons, ih, symbols_read_cons, dropWhileEnd_cons_of_neg rfl]
  | literal_read t s _ ih =>
    rw [Interpolation.mapLast, mapLast_read_cons, symbols_literal_cons, symbols_read_cons, ih,
      symbols_literal_cons, symbols_read_cons, dropWhileEnd_append, dropWhileEnd_cons_of_neg rfl,
      if_neg (List.cons_ne_nil _ _)]
    exact List.cons_ne_nil _ _

theorem symbols_filter_isEmpty (i : Interpolation) :
    symbols (i.filter (!·.isEmpty)) = symbols i := by
  induction i with
  | nil => rfl
  | cons p i ih =>
    cases p with
    | read s =>
      rw [List.filter_cons_of_pos (by simp [Piece.isEmpty]), symbols_cons, symbols_cons, ih]
    | literal t =>
      by_cases ht : t = []
      · rw [List.filter_cons_of_neg (by simp [Piece.isEmpty, ht]), ih, ht]
        rfl
      · rw [List.filter_cons_of_pos (by simp [Piece.isEmpty, ht]), symbols_cons, symbols_cons, ih]

/-- **The normal form of markup is the markup without line breaks and without the white space at its
ends.** -/
theorem symbols_normalized (m : Markup) : (ofMarkup m).normalized.symbols = m.normalized := by
  have hapart := (apart_ofMarkup m).map_mapLiteral (·.filter (!isLineBreak ·))
  rw [Interpolation.normalized, symbols_filter_isEmpty, (hapart.mapFirst _).symbols_mapLast,
    hapart.symbols_mapFirst, symbols_map_filter, symbols_ofMarkup]
  rfl

/-! ## What a text without reads resolves to -/

/-- A text whose symbols are characters resolves to them, whatever the values. -/
theorem resolve_of_symbols [NumberFormat] (b : Bindings) {i : Interpolation} {t : Text}
    (h : i.symbols = Markup.ofText t) : i.resolve b = .ok t := by
  induction i generalizing t with
  | nil =>
    obtain rfl : t = [] := Markup.ofText_injective h.symm
    rfl
  | cons p i ih =>
    cases p with
    | read s =>
      have hmem : Symbol.slot s ∈ Markup.ofText t := by
        rw [← h]
        exact List.mem_cons_self
      exact absurd hmem (Markup.slot_notMem_ofText s t)
    | literal u =>
      obtain ⟨v, w, rfl, hu, hi⟩ := List.map_eq_append_iff.mp h.symm
      obtain rfl : v = u := Markup.ofText_injective hu
      rw [resolve, ih hi.symm]
      rfl

end Interpolation

theorem Run.symbols_text (r : Run) : r.text.symbols = r.symbols.normalized :=
  Interpolation.symbols_normalized r.symbols

/-! ## What is left of a run -/

/-- What is in the normal form has not been dropped as a line break. -/
theorem Markup.mem_of_mem_normalized {m : Markup} {x : Symbol} (h : x ∈ m.normalized) :
    x ∈ m.filter (!·.isCharWith Interpolation.isLineBreak) :=
  (OpeningTag.trimmed_sublist _).subset h

/-- What is not white space is in the normal form. -/
theorem Markup.mem_normalized {m : Markup} {x : Symbol} (h : x ∈ m)
    (hx : OpeningTag.isBlankSymbol x = false) : x ∈ m.normalized := by
  refine mem_dropWhileEnd (mem_dropWhile (List.mem_filter.mpr ⟨h, ?_⟩) hx) hx
  cases x with
  | slot s => rfl
  | char c =>
    have hbreak := Interpolation.isLineBreak_eq_false (c := c) hx
    simpa using hbreak

/-- A run that is not blank has something in it that stays. -/
theorem Run.normalized_ne_nil {r : Run} (h : r.isBlank = false) : r.symbols.normalized ≠ [] := by
  rw [isBlank, List.all_eq_false] at h
  obtain ⟨x, hx, hblank⟩ := h
  rw [Bool.not_eq_true] at hblank
  exact List.ne_nil_of_mem (Markup.mem_normalized hx hblank)

end MarkupTemplate
