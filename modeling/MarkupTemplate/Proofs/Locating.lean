import MarkupTemplate.Proofs.Assembly
import MarkupTemplate.Proofs.Joining

/-!
# Where runs and tags stand

    markup = before ++ part ++ after
                     ╰─span─╯

A span is a pair of byte offsets, and nothing in it says that it belongs to a text. `Span.Covers`
says that it does: it is the span of a part of some markup. Then it begins and ends between two
characters of the text of the markup, and what it covers there is the text of the part.

`Cuts` says which lexemes a markup has. `HasTag` and `HasRun` pick out one of them, by the markup
that stands before it. This also works where the rest of the markup cannot be cut.
-/

namespace MarkupTemplate

/-! ## Spans of parts -/

/-- Whether a byte offset is between two characters of a text, or at one of its ends. -/
def Text.IsBoundary (t : Text) (offset : Nat) : Prop :=
  ∃ before after, t = before ++ after ∧ before.byteLength = offset

namespace Span

/-- Whether a span is that of a part of a text. -/
structure IsIn (s : Span) (text : Text) : Prop where
  start_le_stop : s.start ≤ s.stop
  stop_le : s.stop ≤ text.byteLength
  start_isBoundary : text.IsBoundary s.start
  stop_isBoundary : text.IsBoundary s.stop
  /-- So what the span covers is not the empty text for want of a place. -/
  slice?_eq : text.slice? s.start s.stop = some (s.slice text)

/-- Whether a span is that of a part of some markup, which begins at a byte offset. -/
def Covers (s : Span) (start : Nat) (m part : Markup) : Prop :=
  ∃ before after, m = before ++ (part ++ after) ∧
    s = ⟨start + before.byteLength, start + before.byteLength + part.byteLength⟩

variable {s t : Span} {start : Nat} {m part inner : Markup}

theorem covers_self (start : Nat) (m : Markup) : Covers ⟨start, start + m.byteLength⟩ start m m :=
  ⟨[], [], by simp, by simp⟩

/-- What is at the front of some markup has a span of its own there. -/
theorem covers_front (start : Nat) (m after : Markup) :
    Covers ⟨start, start + m.byteLength⟩ start (m ++ after) m :=
  ⟨[], after, by simp, by simp⟩

namespace Covers

theorem append_right (h : s.Covers start m part) (back : Markup) :
    s.Covers start (m ++ back) part := by
  obtain ⟨before, after, rfl, rfl⟩ := h
  exact ⟨before, after ++ back, by simp, rfl⟩

theorem append_left {front : Markup} (h : s.Covers (start + front.byteLength) m part) :
    s.Covers start (front ++ m) part := by
  obtain ⟨before, after, rfl, rfl⟩ := h
  exact ⟨front ++ before, after, by simp, by simp [Nat.add_assoc]⟩

/-- A part of a part is a part. -/
theorem trans (h : s.Covers start m part) (hinner : t.Covers s.start part inner) :
    t.Covers start m inner := by
  obtain ⟨before, after, rfl, rfl⟩ := h
  exact (hinner.append_right after).append_left

/-- A part lies in the whole. -/
theorem bounds (h : s.Covers start m part) :
    start ≤ s.start ∧ s.start ≤ s.stop ∧ s.stop ≤ start + m.byteLength := by
  obtain ⟨before, after, rfl, rfl⟩ := h
  simp only [Markup.byteLength_append]
  omega

theorem start_isBoundary (h : s.Covers 0 m part) : m.text.IsBoundary s.start := by
  obtain ⟨before, after, rfl, rfl⟩ := h
  exact ⟨before.text, part.text ++ after.text, by simp, by simp [Markup.byteLength_text]⟩

theorem stop_isBoundary (h : s.Covers 0 m part) : m.text.IsBoundary s.stop := by
  obtain ⟨before, after, rfl, rfl⟩ := h
  exact ⟨before.text ++ part.text, after.text, by simp, by simp [Markup.byteLength_text]⟩

/-- What is found at the span of a part is the text of the part. -/
theorem slice? (h : s.Covers 0 m part) : m.text.slice? s.start s.stop = some part.text := by
  obtain ⟨before, after, rfl, rfl⟩ := h
  have := Text.slice?_append before.text part.text after.text
  simpa [Markup.byteLength_text] using this

/-- The span of a part of markup is in its text. -/
theorem isIn (h : s.Covers 0 m part) : s.IsIn m.text := by
  obtain ⟨-, hle, hstop⟩ := h.bounds
  rw [Nat.zero_add, ← Markup.byteLength_text] at hstop
  refine ⟨hle, hstop, h.start_isBoundary, h.stop_isBoundary, ?_⟩
  rw [Span.slice, h.slice?, Option.getD_some]

end Covers

end Span

/-! ## Tags among lexemes -/

/-- The tag that a lexeme is. -/
def Lexeme.tag? : Lexeme → Option Tag
  | run _ => none
  | tag t => some t

/-- The tags among lexemes, in order. -/
def tagsOf (l : List Lexeme) : List Tag := l.filterMap Lexeme.tag?

@[simp] theorem tagsOf_nil : tagsOf [] = [] := rfl

@[simp] theorem tagsOf_run_cons (r : Run) (l : List Lexeme) :
    tagsOf (.run r :: l) = tagsOf l := rfl

@[simp] theorem tagsOf_tag_cons (t : Tag) (l : List Lexeme) :
    tagsOf (.tag t :: l) = t :: tagsOf l := rfl

@[simp] theorem tagsOf_append (l l' : List Lexeme) : tagsOf (l ++ l') = tagsOf l ++ tagsOf l' :=
  List.filterMap_append

theorem Markup.eq_tag_append (text content rest : Markup) :
    text ++ .char '<' :: (content ++ .char '>' :: rest) = text ++ tag content ++ rest := by
  simp [tag]

/-- Where a tag ends that stands behind some text. -/
theorem Markup.add_byteLength_tag (start : Nat) (text content : Markup) :
    start + text.byteLength + 1 + content.byteLength + 1
      = start + byteLength (text ++ tag content) := by
  have hopen : (Symbol.char '<').byteLength = 1 := rfl
  have hclose : (Symbol.char '>').byteLength = 1 := rfl
  simp only [tag, byteLength_append, byteLength_cons, byteLength_nil, hopen, hclose]
  omega

theorem Tag.span_eq (t : Tag) :
    t.span = ⟨t.start, t.start + Markup.byteLength (Markup.tag t.content)⟩ :=
  congrArg (Span.mk t.start) (Markup.add_byteLength_tag t.start [] t.content)

/-- Whether a tag stands in some markup which begins at a byte offset. Between its brackets there
are no others. -/
structure Tag.StandsIn (t : Tag) (start : Nat) (m : Markup) : Prop where
  covers : t.span.Covers start m (Markup.tag t.content)
  no_bracket : ∀ x ∈ t.content, x ≠ .char '<' ∧ x ≠ .char '>'

namespace Cuts

variable {start : Nat} {m : Markup} {l : List Lexeme}

theorem standsIn (h : Cuts start m l) : ∀ t ∈ tagsOf l, t.StandsIn start m := by
  induction h with
  | last => exact List.forall_mem_nil _
  | @tag start text content rest lexemes htext hcontent _ ih =>
    rw [tagsOf_run_cons, tagsOf_tag_cons, List.forall_mem_cons, Markup.eq_tag_append]
    constructor
    · refine ⟨?_, hcontent⟩
      rw [Tag.span_eq, List.append_assoc]
      exact (Span.covers_front _ _ _).append_left
    · intro t ht
      obtain ⟨hcovers, hbracket⟩ := ih t ht
      rw [Markup.add_byteLength_tag] at hcovers
      exact ⟨hcovers.append_left, hbracket⟩

/-- Markup may stand behind a tag. -/
theorem behind_tag {text content : Markup}
    (h : Cuts (start + Markup.byteLength (text ++ Markup.tag content)) m l)
    (htext : ∀ x ∈ text, x ≠ .char '<') (hcontent : ∀ x ∈ content, x ≠ .char '<' ∧ x ≠ .char '>') :
    Cuts start (text ++ Markup.tag content ++ m)
      (.run ⟨start, text⟩ :: .tag ⟨start + text.byteLength, content⟩ :: l) := by
  rw [← Markup.eq_tag_append]
  rw [← Markup.add_byteLength_tag] at h
  exact .tag htext hcontent h

/-- The tags of markup come one after the other. -/
theorem pairwise_tags (h : Cuts start m l) :
    (tagsOf l).Pairwise fun t t' => t.span.stop ≤ t'.span.start := by
  induction h with
  | last => exact .nil
  | tag _ _ hrest ih =>
    rw [tagsOf_run_cons, tagsOf_tag_cons]
    exact .cons (fun t ht => (hrest.standsIn t ht).covers.bounds.1) ih

end Cuts

/-! ## One run, or one tag -/

/-- Whether a markup that begins at a byte offset has a run behind some lexemes. The run goes on up
to the next tag, or to the end. -/
def HasRun (start : Nat) (m : Markup) (l : List Lexeme) (r : Run) : Prop :=
  ∃ before after, m = before ++ after ∧ Cuts start before (l ++ [.run r]) ∧
    ∀ x ∈ after.head?, x = .char '<'

/-- Whether a markup that begins at a byte offset has a tag behind some lexemes and the run that
leads to it. -/
def HasTag (start : Nat) (m : Markup) (l : List Lexeme) (r : Run) (t : Tag) : Prop :=
  ∃ before after, m = before ++ (Markup.tag t.content ++ after) ∧
    Cuts start before (l ++ [.run r]) ∧ t.start = start + before.byteLength ∧
    ∀ x ∈ t.content, x ≠ .char '<' ∧ x ≠ .char '>'

/-- Whether a span is that of a tag that does not end: it goes on up to the next bracket that opens
a tag, or to the end of the markup, and no bracket closes it. -/
def HasOpenTag (start : Nat) (m : Markup) (s : Span) : Prop :=
  ∃ (before inside after : Markup) (l : List Lexeme),
    m = before ++ (.char '<' :: inside ++ after) ∧ Cuts start before l ∧
    (∀ x ∈ inside, x ≠ .char '<' ∧ x ≠ .char '>') ∧ (∀ x ∈ after.head?, x = .char '<') ∧
    s = ⟨start + before.byteLength,
      start + before.byteLength + Markup.byteLength (.char '<' :: inside)⟩

variable {start : Nat} {m : Markup} {l : List Lexeme} {r : Run} {t : Tag} {s : Span}

theorem HasTag.standsIn (h : HasTag start m l r t) : t.StandsIn start m := by
  obtain ⟨before, after, rfl, -, hstart, hbracket⟩ := h
  refine ⟨?_, hbracket⟩
  rw [Tag.span_eq, hstart]
  exact (Span.covers_front _ _ _).append_left

theorem HasTag.hasRun (h : HasTag start m l r t) : HasRun start m l r := by
  obtain ⟨before, after, hm, hcuts, -, -⟩ := h
  refine ⟨before, _, hm, hcuts, ?_⟩
  rintro x ⟨⟩
  rfl

theorem HasOpenTag.exists_covers (h : HasOpenTag start m s) : ∃ part, s.Covers start m part := by
  obtain ⟨before, inside, after, l, rfl, -, -, -, rfl⟩ := h
  exact ⟨.char '<' :: inside, (Span.covers_front _ _ _).append_left⟩

namespace Cutting

/-- The run at the end is the end of the markup. -/
theorem exists_front_of_ending (h : (ofMarkup start m).ending = .run r) :
    ∃ front, m = front ++ r.symbols ∧ r.start = start + front.byteLength := by
  induction parts m generalizing start with
  | run htext =>
    rw [ofMarkup_of_run htext] at h
    cases h
    exact ⟨[], rfl, rfl⟩
  | @tag text content rest htext hcontent _ ih =>
    rw [ofMarkup_of_tag htext hcontent, Markup.add_byteLength_tag] at h
    obtain ⟨front, rfl, hstart⟩ := ih h
    refine ⟨text ++ Markup.tag content ++ front, ?_, ?_⟩
    · rw [Markup.eq_tag_append, List.append_assoc _ front]
    · rw [hstart, Markup.byteLength_append _ front, Nat.add_assoc]
  | unterminated htext hinside =>
    rw [ofMarkup_of_unterminated htext hinside] at h
    cases h

end Cutting

/-- A part of a run has its span from where it stands in the run. -/
theorem HasRun.covers (h : HasRun start m l r) {front part back : Markup}
    (hr : r.symbols = front ++ (part ++ back)) :
    Span.Covers ⟨r.start + front.byteLength, r.start + front.byteLength + part.byteLength⟩
      start m part := by
  obtain ⟨before, after, rfl, hcuts, -⟩ := h
  obtain ⟨last, hending, hl⟩ := Cutting.ofMarkup_of_cuts hcuts
  obtain ⟨-, hlast⟩ := List.append_inj' hl rfl
  obtain rfl : r = last := by simpa using hlast
  obtain ⟨first, rfl, hstart⟩ := Cutting.exists_front_of_ending hending
  rw [hr, hstart]
  exact (Span.covers_front _ _ _).append_left.append_left.append_right after

namespace Cutting

/-- A tag of a cutting is a tag of the markup. -/
theorem hasTag {done later : List (Run × Tag)}
    (h : (ofMarkup start m).tags = done ++ (r, t) :: later) :
    HasTag start m (lexemes done) r t := by
  induction parts m generalizing start done with
  | run htext =>
    rw [ofMarkup_of_run htext] at h
    simp at h
  | @tag text content rest htext hcontent _ ih =>
    rw [ofMarkup_of_tag htext hcontent, Markup.add_byteLength_tag] at h
    cases done with
    | nil =>
      obtain ⟨h, -⟩ := List.cons.inj h
      cases h
      refine ⟨text, rest, ?_, .last htext, rfl, hcontent⟩
      rw [Markup.eq_tag_append, List.append_assoc]
    | cons pair done =>
      obtain ⟨rfl, hlater⟩ := List.cons.inj h
      obtain ⟨before, after, rfl, hcuts, hstart, hbracket⟩ := ih hlater
      refine ⟨text ++ Markup.tag content ++ before, after, ?_, hcuts.behind_tag htext hcontent, ?_,
        hbracket⟩
      · rw [Markup.eq_tag_append, List.append_assoc _ before]
      · rw [hstart, Markup.byteLength_append _ before, Nat.add_assoc]
  | unterminated htext hinside =>
    rw [ofMarkup_of_unterminated htext hinside] at h
    simp at h

theorem hasRun (h : (ofMarkup start m).ending = .run r) :
    HasRun start m (lexemes (ofMarkup start m).tags) r :=
  ⟨m, [], (List.append_nil m).symm, cuts_of_ending h, fun _ hx => by cases hx⟩

theorem hasOpenTag (h : (ofMarkup start m).ending = .unterminated s) : HasOpenTag start m s := by
  induction parts m generalizing start with
  | run htext =>
    rw [ofMarkup_of_run htext] at h
    cases h
  | @tag text content rest htext hcontent _ ih =>
    rw [ofMarkup_of_tag htext hcontent, Markup.add_byteLength_tag] at h
    obtain ⟨before, inside, after, l, rfl, hcuts, hinside, hafter, rfl⟩ := ih h
    refine ⟨text ++ Markup.tag content ++ before, inside, after, _, ?_,
      hcuts.behind_tag htext hcontent, hinside, hafter, ?_⟩
    · rw [Markup.eq_tag_append, List.append_assoc _ before]
    · rw [Markup.byteLength_append _ before, Nat.add_assoc start]
  | @unterminated text inside htext hinside =>
    rw [ofMarkup_of_unterminated htext hinside] at h
    cases h
    refine ⟨text, inside.takeWhile isTagSymbol, inside.dropWhile isTagSymbol, _, ?_, .last htext,
      ?_, ?_, ?_⟩
    · rw [List.cons_append, List.takeWhile_append_dropWhile]
    · exact fun x hx => isTagSymbol_iff.mp (List.mem_takeWhile_imp hx)
    · -- The tag stops at a bracket, and that is not the one that would end it.
      intro x hx
      have hbracket := List.head?_dropWhile_not isTagSymbol inside
      cases hdrop : inside.dropWhile isTagSymbol with
      | nil => simp [hdrop] at hx
      | cons y rest =>
        rw [hdrop] at hx hbracket
        cases hx
        have hx : x = .char '<' ∨ x = .char '>' := by
          simpa [isTagSymbol, Symbol.isChar, or_iff_not_imp_left] using hbracket
        rcases hx with rfl | rfl
        · rfl
        · exact absurd hdrop (hinside rest)
    · have hopen : (Symbol.char '<').byteLength = 1 := rfl
      rw [Markup.byteLength_cons, hopen, ← Nat.add_assoc]

end Cutting

end MarkupTemplate
