import MarkupTemplate.Proofs.NormalForm
import MarkupTemplate.Proofs.Sites

/-!
# Reading markup whose slots are filled

    markup ──cut──▶ lexemes ──read──▶ tags, texts
      │               │                 │
     fill            fill              fill
      ▼               ▼                 ▼
    markup ──cut──▶ lexemes ──read──▶ tags, texts

A value can be written in the place of its slot before the markup is read, or after. Both come to
the same if the text of the value is *inert*: it is not empty, and it has no white space, no quotes
and no angle brackets. Then it is part of the run or the word that its slot is part of, and every
step of the reader commutes with filling slots.

The other characters that the reader looks for do no harm. An equals sign in a value is not the
first one of its word, for names have no slots. A slash in a value may be the last character of a
tag, but then it is the end of a value, for a word that consists of a slot is no attribute
(`Word.Splits.mem_of_concat`). And no opening tag begins with a slot (`OpeningTag.Spells.not_slot`),
so that none is taken for a closing tag. Only the key of an element is lost: without a slot it is an
attribute.
-/

namespace MarkupTemplate

/-- A text that is part of whatever word or run it stands in. -/
structure Text.Inert (t : Text) : Prop where
  ne_nil : t ≠ []
  isBlank_eq_false : ∀ c ∈ t, isBlank c = false
  isQuote_eq_false : ∀ c ∈ t, Word.isQuote c = false
  no_bracket : ∀ c ∈ t, c ≠ '<' ∧ c ≠ '>'

theorem Text.inert_iff {t : Text} : t.Inert ↔
    t ≠ [] ∧ ∀ c ∈ t, isBlank c = false ∧ Word.isQuote c = false ∧ c ≠ '<' ∧ c ≠ '>' := by
  constructor
  · intro h
    exact ⟨h.ne_nil, fun c hc =>
      ⟨h.isBlank_eq_false c hc, h.isQuote_eq_false c hc, h.no_bracket c hc⟩⟩
  · rintro ⟨hnil, h⟩
    exact ⟨hnil, fun c hc => (h c hc).1, fun c hc => (h c hc).2.1, fun c hc => (h c hc).2.2⟩

-- The instance is named, lest all characters that there are be tried.
instance (t : Text) : Decidable t.Inert :=
  haveI := List.decidableBAll
    (fun c => isBlank c = false ∧ Word.isQuote c = false ∧ c ≠ '<' ∧ c ≠ '>') t
  decidable_of_iff _ Text.inert_iff.symm

/-- Tokens are inert: this is how markup looks when nothing else is filled in. -/
theorem Slot.inert_token (s : Slot) : s.token.Inert := by
  refine Text.inert_iff.mpr ⟨List.cons_ne_nil _ _, fun c hc => ?_⟩
  rcases List.mem_cons.mp hc with rfl | hc
  · decide
  · have hdigit := Text.isDigit_of_mem_ofNat hc
    refine ⟨isBlank_eq_false_of_isDigit hdigit, ?_, ?_, ?_⟩
    · by_contra hquote
      rcases Word.isQuote_iff.mp (by simpa using hquote) with rfl | rfl
      all_goals cases hdigit
    all_goals
      rintro rfl
      cases hdigit

variable {f : Slot → Text}

/-! ## Filling slots -/

/-- The markup that a symbol becomes when slots are replaced by texts. -/
def Symbol.fill (f : Slot → Text) : Symbol → Markup
  | char c => [.char c]
  | slot s => Markup.ofText (f s)

/-- Markup with texts in the place of its slots. -/
def Markup.fill (f : Slot → Text) (m : Markup) : Markup := m.flatMap (Symbol.fill f)

/-- Whether a property of symbols is the same for a slot and for all characters that replace it. -/
def Uniform (f : Slot → Text) (p : Symbol → Bool) : Prop :=
  ∀ s, ∀ c ∈ f s, p (.char c) = p (.slot s)

theorem uniform_isCharWith {q : Char → Bool} (h : ∀ s, ∀ c ∈ f s, q c = false) :
    Uniform f (·.isCharWith q) := h

namespace Uniform

variable {p : Symbol → Bool}

theorem not (h : Uniform f p) : Uniform f (!p ·) := fun s c hc => congrArg (!·) (h s c hc)

theorem eq_of_mem_fill (h : Uniform f p) {x y : Symbol} (hy : y ∈ x.fill f) : p y = p x := by
  cases x with
  | char c => rw [List.mem_singleton.mp hy]
  | slot s =>
    obtain ⟨c, hc, rfl⟩ := Markup.mem_ofText.mp hy
    exact h s c hc

end Uniform

namespace Markup

@[simp] theorem fill_nil : fill f [] = [] := rfl

@[simp] theorem fill_cons (x : Symbol) (m : Markup) : fill f (x :: m) = x.fill f ++ fill f m := rfl

@[simp] theorem fill_char (c : Char) : (Symbol.char c).fill f = [.char c] := rfl

@[simp] theorem fill_slot (s : Slot) : (Symbol.slot s).fill f = ofText (f s) := rfl

@[simp] theorem fill_append (m n : Markup) : fill f (m ++ n) = fill f m ++ fill f n :=
  List.flatMap_append

@[simp] theorem fill_ofText (t : Text) : fill f (ofText t) = ofText t := by
  induction t with
  | nil => rfl
  | cons c t ih =>
    rw [ofText_cons, fill_cons, ih]
    rfl

/-- Markup without slots stays as it is. -/
theorem fill_eq_self {m : Markup} (h : ∀ s, .slot s ∉ m) : fill f m = m := by
  induction m with
  | nil => rfl
  | cons x m ih =>
    have hm : ∀ s, .slot s ∉ m := fun s hs => h s (List.mem_cons_of_mem _ hs)
    cases x with
    | char c =>
      rw [fill_cons, ih hm]
      rfl
    | slot s => exact absurd List.mem_cons_self (h s)

/-- What is said of all symbols of markup is said of its filled form, if it is true of the
values. -/
theorem forall_mem_fill {P : Symbol → Prop} {m : Markup} (hP : ∀ s, ∀ c ∈ f s, P (.char c))
    (h : ∀ x ∈ m, P x) : ∀ x ∈ fill f m, P x := by
  intro y hy
  obtain ⟨x, hx, hy⟩ := List.mem_flatMap.mp hy
  cases x with
  | char c =>
    rw [List.mem_singleton.mp hy]
    exact h _ hx
  | slot s =>
    obtain ⟨c, hc, rfl⟩ := mem_ofText.mp hy
    exact hP s c hc

end Markup

/-! ### Steps that commute with filling -/

section Inert

variable (hf : ∀ s, (f s).Inert) {p : Symbol → Bool} {m : Markup}

include hf

theorem Symbol.fill_ne_nil (x : Symbol) : x.fill f ≠ [] := by
  cases x with
  | char c => exact List.cons_ne_nil _ _
  | slot s =>
    intro hnil
    exact (hf s).ne_nil (List.map_eq_nil_iff.mp hnil)

theorem Markup.fill_eq_nil_iff : fill f m = [] ↔ m = [] := by
  cases m with
  | nil => simp
  | cons x m => simp [x.fill_ne_nil hf]

/-- The filled form of a symbol ends with something that is like it. -/
theorem Uniform.exists_concat (hp : Uniform f p) (x : Symbol) :
    ∃ front y, x.fill f = front ++ [y] ∧ p y = p x := by
  obtain ⟨front, y, hy⟩ := (List.eq_nil_or_concat (x.fill f)).resolve_left (x.fill_ne_nil hf)
  rw [List.concat_eq_append] at hy
  exact ⟨front, y, hy, hp.eq_of_mem_fill (by rw [hy]; simp)⟩

theorem Uniform.dropWhile_fill (hp : Uniform f p) :
    (m.fill f).dropWhile p = Markup.fill f (m.dropWhile p) := by
  induction m with
  | nil => rfl
  | cons x m ih =>
    cases hx : p x with
    | true =>
      have hall : ∀ y ∈ x.fill f, p y = true := fun y hy => (hp.eq_of_mem_fill hy).trans hx
      rw [Markup.fill_cons, List.dropWhile_append_of_pos hall, ih, List.dropWhile_cons_of_pos hx]
    | false =>
      have hnot : ¬ p x = true := by simp [hx]
      obtain ⟨y, rest, hy⟩ := List.exists_cons_of_ne_nil (x.fill_ne_nil hf)
      have hpy : p y = p x := hp.eq_of_mem_fill (by rw [hy]; exact List.mem_cons_self)
      rw [List.dropWhile_cons_of_neg hnot, Markup.fill_cons, hy, List.cons_append,
        List.dropWhile_cons_of_neg (by rwa [hpy])]

theorem Uniform.dropWhileEnd_fill (hp : Uniform f p) :
    dropWhileEnd p (m.fill f) = Markup.fill f (dropWhileEnd p m) := by
  induction m using List.reverseRecOn with
  | nil => rfl
  | append_singleton m x ih =>
    cases hx : p x with
    | true =>
      have hall : ∀ y ∈ Markup.fill f [x], p y = true := by
        intro y hy
        have hy : y ∈ x.fill f := by simpa using hy
        exact (hp.eq_of_mem_fill hy).trans hx
      rw [Markup.fill_append, dropWhileEnd_append_of_forall hall, ih,
        dropWhileEnd_append_of_forall (by simpa using hx)]
    | false =>
      obtain ⟨front, y, hy, hpy⟩ := hp.exists_concat hf x
      have hfill : Markup.fill f (m ++ [x]) = Markup.fill f m ++ front ++ [y] := by simp [hy]
      rw [dropWhileEnd_eq_rdropWhile, dropWhileEnd_eq_rdropWhile,
        List.rdropWhile_concat_neg _ _ x (by simp [hx]), hfill,
        List.rdropWhile_concat_neg _ _ y (by simp [hpy, hx])]

theorem Uniform.any_fill (hp : Uniform f p) : (m.fill f).any p = m.any p := by
  induction m with
  | nil => rfl
  | cons x m ih =>
    have hx : (x.fill f).any p = p x := by
      obtain ⟨front, y, hy, hpy⟩ := hp.exists_concat hf x
      cases hpx : p x with
      | true =>
        rw [hy, List.any_append]
        simp [hpy, hpx]
      | false =>
        rw [List.any_eq_false]
        intro z hz
        simp [hp.eq_of_mem_fill hz, hpx]
    rw [Markup.fill_cons, List.any_append, hx, ih, List.any_cons]

theorem Uniform.any_getLast?_fill (hp : Uniform f p) :
    (m.fill f).getLast?.any p = m.getLast?.any p := by
  rcases List.eq_nil_or_concat m with rfl | ⟨front, x, rfl⟩
  · rfl
  · obtain ⟨front', y, hy, hpy⟩ := hp.exists_concat hf x
    simp [hy, hpy, List.getLast?_append]

omit hf in
theorem Uniform.filter_fill (hp : Uniform f p) :
    (m.fill f).filter p = Markup.fill f (m.filter p) := by
  induction m with
  | nil => rfl
  | cons x m ih =>
    rw [Markup.fill_cons, List.filter_append, ih]
    cases hx : p x with
    | true =>
      rw [List.filter_cons_of_pos hx, Markup.fill_cons, List.filter_eq_self.mpr]
      exact fun y hy => (hp.eq_of_mem_fill hy).trans hx
    | false =>
      rw [List.filter_cons_of_neg (by simp [hx]), List.filter_eq_nil_iff.mpr, List.nil_append]
      intro y hy
      simp [hp.eq_of_mem_fill hy, hx]

/-! ## Brackets -/

theorem Markup.fill_no_open (h : ∀ x ∈ m, x ≠ .char '<') : ∀ x ∈ m.fill f, x ≠ .char '<' := by
  refine forall_mem_fill (fun s c hc => ?_) h
  rintro ⟨⟩
  exact ((hf s).no_bracket _ hc).1 rfl

theorem Markup.fill_no_bracket (h : ∀ x ∈ m, x ≠ .char '<' ∧ x ≠ .char '>') :
    ∀ x ∈ m.fill f, x ≠ .char '<' ∧ x ≠ .char '>' := by
  refine forall_mem_fill (fun s c hc => ⟨?_, ?_⟩) h
  · rintro ⟨⟩
    exact ((hf s).no_bracket _ hc).1 rfl
  · rintro ⟨⟩
    exact ((hf s).no_bracket _ hc).2 rfl

/-! ## White space -/

theorem uniform_isBlankSymbol : Uniform f OpeningTag.isBlankSymbol :=
  uniform_isCharWith fun s => (hf s).isBlank_eq_false

theorem uniform_isBlank_or_isQuote :
    Uniform f (·.isCharWith fun c => isBlank c || Word.isQuote c) :=
  uniform_isCharWith fun s c hc => by
    rw [(hf s).isBlank_eq_false c hc, (hf s).isQuote_eq_false c hc, Bool.or_self]

theorem uniform_isLineBreak : Uniform f (·.isCharWith Interpolation.isLineBreak) :=
  uniform_isCharWith fun s c hc =>
    Interpolation.isLineBreak_eq_false ((hf s).isBlank_eq_false c hc)

namespace Markup

theorem trimmed_fill : (m.fill f).trimmed = m.trimmed.fill f := by
  have hblank := uniform_isBlankSymbol hf
  rw [trimmed, trimmed, hblank.dropWhile_fill hf, hblank.dropWhileEnd_fill hf]

theorem normalized_fill : (m.fill f).normalized = m.normalized.fill f := by
  rw [normalized, normalized, (uniform_isLineBreak hf).not.filter_fill, trimmed_fill hf]

end Markup

/-! ## Words -/

namespace Word

omit hf in
theorem one_ne_nil {symbols : Markup} (h : symbols ≠ []) : one symbols = [symbols] := if_neg h

theorem one_fill (symbols : Markup) : one (symbols.fill f) = (one symbols).map (Markup.fill f) := by
  by_cases hnil : symbols = []
  · rw [hnil]
    rfl
  · rw [one_ne_nil hnil, one_ne_nil (fun h => hnil ((Markup.fill_eq_nil_iff hf).mp h))]
    rfl

theorem forall_isBare_fill {bare : Markup} (h : ∀ x ∈ bare, isBare x = true) :
    ∀ x ∈ bare.fill f, isBare x = true :=
  Markup.forall_mem_fill (fun s c hc => (uniform_isBlank_or_isQuote hf).not s c hc) h

/-- The words of filled markup are the filled words. -/
theorem Splits.fill {words : List Markup} (h : Splits m words) :
    Splits (m.fill f) (words.map (Markup.fill f)) := by
  induction h with
  | last hbare =>
    rw [← one_fill hf]
    exact .last (forall_isBare_fill hf hbare)
  | blank hbare hc _ ih =>
    rw [Markup.fill_append, Markup.fill_cons, List.map_append, ← one_fill hf]
    exact .blank (forall_isBare_fill hf hbare) hc ih
  | @quoted bare quoted rest quote words hbare hquote hquoted _ ih =>
    have hquoted' : ∀ x ∈ quoted.fill f, x ≠ .char quote := by
      apply Markup.forall_mem_fill _ hquoted
      rintro s c hc ⟨⟩
      rw [(hf s).isQuote_eq_false _ hc] at hquote
      cases hquote
    simp only [Markup.fill_append, Markup.fill_cons, Markup.fill_char, List.map_append,
      List.singleton_append, ← one_fill hf]
    exact .quoted (forall_isBare_fill hf hbare) hquote hquoted' ih

end Word

end Inert

namespace Word

/-- A content that begins with part of a word has a word that begins with it. -/
theorem Splits.exists_cons {x : Symbol} {m : Markup} {words : List Markup}
    (h : Splits (x :: m) words) (hx : isBare x = true) :
    ∃ word rest, words = (x :: word) :: rest := by
  generalize hm : x :: m = content at h
  cases h with
  | last =>
    subst hm
    exact ⟨m, [], one_ne_nil (List.cons_ne_nil _ _)⟩
  | @blank bare rest c words _ hc =>
    cases bare with
    | nil =>
      obtain ⟨rfl, -⟩ := List.cons.inj hm
      rw [isBare_of_isBlank hc] at hx
      cases hx
    | cons y bare =>
      obtain ⟨rfl, -⟩ := List.cons.inj hm
      rw [one_ne_nil (List.cons_ne_nil _ _)]
      exact ⟨bare, words, rfl⟩
  | @quoted bare quoted rest quote words _ hquote =>
    cases bare with
    | nil =>
      obtain ⟨rfl, -⟩ := List.cons.inj hm
      rw [isBare_of_isQuote hquote] at hx
      cases hx
    | cons y bare =>
      obtain ⟨rfl, -⟩ := List.cons.inj hm
      rw [List.cons_append, one_ne_nil (List.cons_ne_nil _ _)]
      exact ⟨bare ++ quoted, words, rfl⟩

/-- A slot behind a character is the end of whatever follows the character. -/
theorem eq_append_of_concat {front l rest : Markup} {s : Slot} {c : Char}
    (h : l ++ .char c :: rest = front ++ [.slot s]) :
    ∃ rest', rest = rest' ++ [.slot s] ∧ ∀ x ∈ rest'.getLast?, x ∈ front.getLast? := by
  rcases List.eq_nil_or_concat rest with rfl | ⟨rest', y, rfl⟩
  · obtain ⟨-, hlast⟩ := List.append_inj' h rfl
    cases hlast
  · rw [List.concat_eq_append, ← List.cons_append, ← List.append_assoc] at h
    obtain ⟨rfl, hlast⟩ := List.append_inj' h rfl
    cases hlast
    refine ⟨rest', List.concat_eq_append, ?_⟩
    intro x hx
    rw [Option.mem_def] at hx ⊢
    rw [List.getLast?_append, List.getLast?_cons, hx]
    rfl

/-- A slot at the very end is a word by itself if what stands before it ends a word. -/
theorem Splits.mem_of_concat {front : Markup} {s : Slot} {words : List Markup}
    (h : Splits (front ++ [.slot s]) words) (hfront : ∀ x ∈ front.getLast?, isBare x = false) :
    [.slot s] ∈ words := by
  generalize hm : front ++ [.slot s] = content at h
  induction h generalizing front with
  | @last bare hbare =>
    subst hm
    rcases List.eq_nil_or_concat front with rfl | ⟨front, x, rfl⟩
    · exact List.mem_singleton_self _
    · have hx := hfront x (by simp)
      rw [hbare x (by simp)] at hx
      cases hx
  | blank _ _ _ ih =>
    obtain ⟨rest, rfl, hrest⟩ := eq_append_of_concat hm.symm
    exact List.mem_append_right _ (ih (fun x hx => hfront x (hrest x hx)) rfl)
  | @quoted bare quoted rest quote words _ _ _ _ ih =>
    rw [← List.cons_append, ← List.append_assoc] at hm
    obtain ⟨rest, rfl, hrest⟩ := eq_append_of_concat hm.symm
    exact List.mem_append_right _ (ih (fun x hx => hfront x (hrest x hx)) rfl)

end Word

end MarkupTemplate
