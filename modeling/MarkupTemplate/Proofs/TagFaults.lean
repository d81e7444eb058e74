import MarkupTemplate.Proofs.Locating
import MarkupTemplate.Proofs.NormalForm

/-!
# Where the faults of an opening tag show

    < leading ╭──words──╮ / blank >
              word  word  quote…

The reader of a tag drops white space and a slash before it cuts the content into words, and counts
bytes all the way, so that a word keeps the span that it has in the markup. `read_eq_error` says
that it does: whatever the reader finds wrong with a tag shows in a part of that tag.
-/

namespace MarkupTemplate

namespace Misreading

/-- Whether a fault is about a word in some markup that begins at a byte offset. -/
inductive IsOf (start : Nat) (m : Markup) : Misreading → Prop
  /-- A word that is no name, or the place of a name that is not there. -/
  | name {role : NameRole} {span : Span} {part : Markup} :
      span.Covers start m part → IsOf start m ⟨.invalidName role, span⟩
  /-- A quote that is never closed. -/
  | quote {quote : Char} {span : Span} :
      Word.isQuote quote = true → span.Covers start m [.char quote] →
      IsOf start m ⟨.unterminatedQuote quote, span⟩

namespace IsOf

variable {start : Nat} {m : Markup} {e : Misreading}

theorem append_right (h : e.IsOf start m) (back : Markup) : e.IsOf start (m ++ back) := by
  cases h with
  | name hcovers => exact .name (hcovers.append_right back)
  | quote hquote hcovers => exact .quote hquote (hcovers.append_right back)

theorem append_left {front : Markup} (h : e.IsOf (start + front.byteLength) m) :
    e.IsOf start (front ++ m) := by
  cases h with
  | name hcovers => exact .name hcovers.append_left
  | quote hquote hcovers => exact .quote hquote hcovers.append_left

theorem exists_covers (h : e.IsOf start m) : ∃ part, e.span.Covers start m part := by
  cases h with
  | name hcovers => exact ⟨_, hcovers⟩
  | quote _ hcovers => exact ⟨_, hcovers⟩

end IsOf

end Misreading

/-! ## Words -/

namespace Word

variable {start : Nat} {m : Markup}

theorem span_of_mem_ofSymbols {symbols : Markup} {start stop : Nat} {word : Word}
    (h : word ∈ ofSymbols symbols start stop) : word.span = ⟨start, stop⟩ := by
  rw [ofSymbols] at h
  split at h
  · cases h
  · rw [List.mem_singleton.mp h]

/-- What is read up to the end of a quoted part. -/
def taken (bare : Markup) (x : Symbol) (quoted : Markup) (close : Symbol) : Markup :=
  bare ++ ([x] ++ (quoted ++ [close]))

theorem eq_taken_append {quote : Char} {x close : Symbol} {rest rest' : Markup}
    (hdrop : m.dropWhile isBare = x :: rest)
    (hdrop' : rest.dropWhile (!·.isChar quote) = close :: rest') :
    m = taken (m.takeWhile isBare) x (rest.takeWhile (!·.isChar quote)) close ++ rest' := by
  have hm := (eq_append_of_dropWhile hdrop).1
  rw [(eq_append_of_dropWhile hdrop').1] at hm
  simpa [taken] using hm

theorem byteLength_taken (bare : Markup) (x : Symbol) (quoted : Markup) (close : Symbol) :
    start + bare.byteLength + x.byteLength + quoted.byteLength + close.byteLength
      = start + (taken bare x quoted close).byteLength := by
  simp [taken, Nat.add_assoc]

/-- The span of a word is that of a part of the content. -/
theorem covers_of_split {words : List Word} (h : split start m = .ok words) :
    ∀ word ∈ words, ∃ part, word.span.Covers start m part := by
  fun_induction split start m generalizing words with
  | case1 start m bare stop =>
    cases h
    intro word hword
    refine ⟨bare, ?_⟩
    rw [span_of_mem_ofSymbols hword, ← List.takeWhile_append_dropWhile (p := isBare) (l := m)]
    exact Span.covers_front start bare _
  | case2 start m bare stop x rest hdrop hquote =>
    rename_i ih
    obtain ⟨words, hwords, rfl⟩ := map_eq_ok.mp h
    rw [(eq_append_of_dropWhile hdrop).1, ← List.singleton_append]
    refine List.forall_mem_append.mpr ⟨fun word hword => ?_, fun word hword => ?_⟩
    · rw [span_of_mem_ofSymbols hword]
      exact ⟨bare, Span.covers_front start bare _⟩
    · obtain ⟨part, hcovers⟩ := ih hwords word hword
      have hcovers : word.span.Covers (stop + Markup.byteLength [x]) rest part := hcovers
      exact ⟨part, hcovers.append_left.append_left⟩
  | case3 => cases h
  | case4 start m bare stop x rest hdrop quote hquote quoted close rest' hdrop' stop' =>
    rename_i ih
    obtain ⟨words, hwords, rfl⟩ := map_eq_ok.mp h
    rw [eq_taken_append hdrop hdrop']
    refine List.forall_mem_append.mpr ⟨fun word hword => ?_, fun word hword => ?_⟩
    · rw [span_of_mem_ofSymbols hword]
      refine ⟨taken bare x quoted close, ?_⟩
      rw [show stop' = _ from byteLength_taken bare x quoted close]
      exact Span.covers_front start _ rest'
    · obtain ⟨part, hcovers⟩ := ih hwords word hword
      rw [show stop' = _ from byteLength_taken bare x quoted close] at hcovers
      exact ⟨part, hcovers.append_left⟩

/-- A quote that is never closed shows itself. -/
theorem isOf_of_split {e : Misreading} (h : split start m = .error e) : e.IsOf start m := by
  fun_induction split start m with
  | case1 => cases h
  | case2 start m bare stop x rest hdrop hquote =>
    rename_i ih
    have hrest : e.IsOf (stop + Markup.byteLength [x]) rest := ih (map_eq_error.mp h)
    rw [(eq_append_of_dropWhile hdrop).1, ← List.singleton_append]
    exact hrest.append_left.append_left
  | case3 start m bare stop x rest hdrop quote =>
    rename_i hquote _
    cases h
    obtain ⟨rfl, hopen⟩ := quote?_eq_some hquote
    rw [(eq_append_of_dropWhile hdrop).1, ← List.singleton_append]
    exact .quote hopen (Span.covers_front stop [.char quote] rest).append_left
  | case4 start m bare stop x rest hdrop quote hquote quoted close rest' hdrop' stop' =>
    rename_i ih
    have hrest : e.IsOf stop' rest' := ih (map_eq_error.mp h)
    rw [show stop' = _ from byteLength_taken bare x quoted close] at hrest
    rw [eq_taken_append hdrop hdrop']
    exact hrest.append_left

end Word

/-! ## Tags -/

namespace OpeningTag

variable [Alphabet]

theorem readWord_eq_error {tag : OpeningTag} {word : Word} {e : Misreading}
    (h : tag.readWord word = .error e) : e = ⟨.invalidName .ofAttribute, word.span⟩ := by
  rw [readWord] at h
  split at h
  · cases h
  · exact (Except.error.inj h).symm

/-- Among words, one that is no name is at fault, or there is none. -/
theorem ofWords_eq_error {start : Nat} {words : List Word} {e : Misreading}
    (h : ofWords start words = .error e) :
    ∃ role, e = ⟨.invalidName role, ⟨start, start⟩⟩ ∨
      ∃ word ∈ words, e = ⟨.invalidName role, word.span⟩ := by
  cases words with
  | nil => exact ⟨_, .inl (Except.error.inj h).symm⟩
  | cons word rest =>
    rw [ofWords] at h
    split at h
    · obtain ⟨done, word', later, tag, rfl, -, hword'⟩ := foldlM_eq_error h
      exact ⟨_, .inr ⟨word', by simp, readWord_eq_error hword'⟩⟩
    · exact ⟨_, .inr ⟨word, List.mem_cons_self, (Except.error.inj h).symm⟩⟩

theorem isOf_of_ofContent {start : Nat} {m : Markup} {e : Misreading}
    (h : ofContent start m = .error e) : e.IsOf start m := by
  rcases bind_eq_error.mp h with h | ⟨words, hwords, h⟩
  · exact Word.isOf_of_split h
  · obtain ⟨role, rfl | ⟨word, hword, rfl⟩⟩ := ofWords_eq_error h
    · exact .name (Span.covers_front start [] m)
    · obtain ⟨part, hcovers⟩ := Word.covers_of_split hwords word hword
      exact .name hcovers

/-- The reader of a tag finds fault with a word in the content, or with the whole tag. -/
theorem read_eq_error {span : Span} {content : Markup} {e : Misreading}
    (h : read span content = .error e) :
    e = ⟨.invalidTag, span⟩ ∨ e.IsOf (span.start + 1) content := by
  obtain ⟨back, hcontent, -⟩ := exists_eq_append_trim (p := isBlankSymbol) content
  obtain ⟨slash, hslash⟩ := isPrefix_splitSlash content.trimmed
  have htrimmed : content.trimmed
      = dropWhileEnd isBlankSymbol (content.dropWhile isBlankSymbol) := rfl
  rw [← htrimmed] at hcontent
  rw [read, ← htrimmed] at h
  split at h
  next inner closed hinner =>
  rw [hinner] at hslash
  split at h
  · rcases bind_eq_error.mp h with h | ⟨_, -, h⟩
    · -- What is read stands behind the white space, and in front of the slash.
      have hinner := isOf_of_ofContent h
      rw [hcontent, ← hslash]
      exact .inr ((hinner.append_right slash).append_right back).append_left
    · cases h
  · split at h
    · cases h
    · exact .inl (Except.error.inj h).symm

end OpeningTag

/-- Whether a fault shows in a tag: in all of it, or in a word. -/
def Tag.Shows (t : Tag) (e : Misreading) : Prop :=
  e = ⟨.invalidTag, t.span⟩ ∨ e.IsOf t.start (Markup.tag t.content)

namespace Tag.Shows

variable {t : Tag} {e : Misreading}

theorem of_read [Alphabet] (h : OpeningTag.read t.span t.content = .error e) : t.Shows e := by
  rcases OpeningTag.read_eq_error h with rfl | h
  · exact .inl rfl
  · have hcontent : e.IsOf (t.start + Markup.byteLength [.char '<']) t.content := h
    exact .inr (hcontent.append_right [.char '>']).append_left

/-- A fault of a tag shows in a part of it. -/
theorem exists_covers (h : t.Shows e) :
    ∃ part, e.span.Covers t.start (Markup.tag t.content) part := by
  rcases h with rfl | h
  · refine ⟨Markup.tag t.content, ?_⟩
    rw [Tag.span_eq]
    exact Span.covers_self _ _
  · exact h.exists_covers

end Tag.Shows

end MarkupTemplate
