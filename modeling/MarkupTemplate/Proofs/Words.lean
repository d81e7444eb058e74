import Mathlib.Data.List.DropRight
import Mathlib.Data.List.TakeWhile
import MarkupTemplate.Proofs.Outcome
import MarkupTemplate.Tag.Word

/-!
# The words of a tag, said without a reader

    content  ::=  bare
               |  bare blank content
               |  bare quote quoted quote content

The reader of words walks through the content of a tag and notes where each word stands. `Splits` is
the grammar that it follows, without any offsets: in each line of it the symbols up to the rest are
a word, unless there are none. `splits_of_split` and `split_of_splits` say that the reader and the
grammar agree, so that what is to be known of words is proved on the grammar.
-/

namespace MarkupTemplate

variable {α : Type} {p : α → Bool}

/-- The longest front with a property, of a list that is put together where the property ends. -/
theorem takeWhile_append_of_head? {front rest : List α} (hfront : ∀ x ∈ front, p x = true)
    (hrest : ∀ x ∈ rest.head?, p x = false) : (front ++ rest).takeWhile p = front := by
  rw [List.takeWhile_append_of_pos hfront]
  cases rest with
  | nil => simp
  | cons x rest => simp [hrest x rfl]

theorem dropWhile_append_of_head? {front rest : List α} (hfront : ∀ x ∈ front, p x = true)
    (hrest : ∀ x ∈ rest.head?, p x = false) : (front ++ rest).dropWhile p = rest := by
  rw [List.dropWhile_append_of_pos hfront]
  cases rest with
  | nil => rfl
  | cons x rest => simp [hrest x rfl]

/-- A list is the longest front with a property, and then the rest if that does not begin with
it. -/
theorem eq_append_of_dropWhile {l : List α} {x : α} {rest : List α}
    (h : l.dropWhile p = x :: rest) : l = l.takeWhile p ++ x :: rest ∧ p x = false := by
  constructor
  · rw [← h, List.takeWhile_append_dropWhile]
  · have := List.head?_dropWhile_not p l
    rwa [h] at this

theorem dropWhileEnd_eq_rdropWhile (p : α → Bool) (l : List α) :
    dropWhileEnd p l = l.rdropWhile p := rfl

namespace Word

/-- The word that some symbols make, if there are any. -/
def one (symbols : Markup) : List Markup := if symbols = [] then [] else [symbols]

/-- The words of the content of a tag. -/
inductive Splits : Markup → List Markup → Prop
  /-- The rest of the content, without white space and quotes. -/
  | last {bare : Markup} : (∀ x ∈ bare, isBare x = true) → Splits bare (one bare)
  /-- White space ends a word. -/
  | blank {bare rest : Markup} {c : Char} {words : List Markup} :
      (∀ x ∈ bare, isBare x = true) → isBlank c = true → Splits rest words →
      Splits (bare ++ .char c :: rest) (one bare ++ words)
  /-- A quoted part ends a word, and whatever it quotes belongs to the word. -/
  | quoted {bare quoted rest : Markup} {quote : Char} {words : List Markup} :
      (∀ x ∈ bare, isBare x = true) → isQuote quote = true →
      (∀ x ∈ quoted, x ≠ .char quote) → Splits rest words →
      Splits (bare ++ .char quote :: (quoted ++ .char quote :: rest))
        (one (bare ++ quoted) ++ words)

/-! ## From the reader to the grammar -/

theorem map_symbols_ofSymbols (symbols : Markup) (start stop : Nat) :
    (ofSymbols symbols start stop).map Word.symbols = one symbols := by
  rw [ofSymbols, one]
  split <;> rfl

theorem quote?_eq_some {x : Symbol} {quote : Char} (h : quote? x = some quote) :
    x = .char quote ∧ isQuote quote = true := by
  cases x with
  | slot s => cases h
  | char c =>
    rw [quote?] at h
    split at h
    · next hc =>
      cases h
      exact ⟨rfl, hc⟩
    · cases h

/-- What ends a word and opens no quoted part is white space. -/
theorem blank_of_quote?_eq_none {x : Symbol} (hx : isBare x = false) (h : quote? x = none) :
    ∃ c, x = .char c ∧ isBlank c = true := by
  cases x with
  | slot s => cases hx
  | char c =>
    refine ⟨c, rfl, ?_⟩
    by_cases hquote : isQuote c = true
    · rw [quote?, if_pos hquote] at h
      cases h
    · simpa [isBare, hquote] using hx

/-- **What the reader finds are the words of the grammar.** -/
theorem splits_of_split {start : Nat} {m : Markup} {words : List Word}
    (h : split start m = .ok words) : Splits m (words.map Word.symbols) := by
  fun_induction split start m generalizing words with
  | case1 start m bare stop =>
    rename_i hdrop
    cases h
    have hall : ∀ x ∈ m, isBare x = true := List.dropWhile_eq_nil_iff.mp hdrop
    have hbare : bare = m := List.takeWhile_eq_self_iff.mpr hall
    rw [map_symbols_ofSymbols, hbare]
    exact .last hall
  | case2 start m bare stop x rest hdrop hquote =>
    rename_i ih
    obtain ⟨words, hwords, rfl⟩ := map_eq_ok.mp h
    obtain ⟨hm, hx⟩ := eq_append_of_dropWhile hdrop
    obtain ⟨c, rfl, hc⟩ := blank_of_quote?_eq_none hx hquote
    rw [hm, List.map_append, map_symbols_ofSymbols]
    exact .blank (fun y hy => List.mem_takeWhile_imp hy) hc (ih hwords)
  | case3 => cases h
  | case4 start m bare stop x rest hdrop quote hquote quoted close rest' hdrop' stop' =>
    rename_i ih
    obtain ⟨words, hwords, rfl⟩ := map_eq_ok.mp h
    obtain ⟨hm, -⟩ := eq_append_of_dropWhile hdrop
    obtain ⟨hrest, hclose⟩ := eq_append_of_dropWhile hdrop'
    obtain ⟨rfl, hopen⟩ := quote?_eq_some hquote
    obtain rfl : close = .char quote := by simpa [Symbol.isChar] using hclose
    rw [hm, hrest, List.map_append, map_symbols_ofSymbols]
    refine .quoted (fun y hy => List.mem_takeWhile_imp hy) hopen ?_ (ih hwords)
    intro y hy
    simpa [Symbol.isChar] using List.mem_takeWhile_imp hy

/-! ## From the grammar to the reader -/

theorem isBare_of_isBlank {c : Char} (h : isBlank c = true) : isBare (.char c) = false := by
  simp [isBare, h]

theorem isBare_of_isQuote {c : Char} (h : isQuote c = true) : isBare (.char c) = false := by
  simp [isBare, h]

theorem quote?_of_isBlank {c : Char} (h : isBlank c = true) : quote? (.char c) = none := by
  rw [quote?, if_neg]
  intro hquote
  rcases isQuote_iff.mp hquote with rfl | rfl <;> cases h

theorem quote?_of_isQuote {c : Char} (h : isQuote c = true) : quote? (.char c) = some c := by
  rw [quote?, if_pos h]

theorem split_last {bare : Markup} (hbare : ∀ x ∈ bare, isBare x = true) (start : Nat) :
    split start bare = .ok (ofSymbols bare start (start + bare.byteLength)) := by
  have hdrop : bare.dropWhile isBare = [] := List.dropWhile_eq_nil_iff.mpr hbare
  rw [split]
  split
  · rw [List.takeWhile_eq_self_iff.mpr hbare]
  · next hcons =>
    rw [hdrop] at hcons
    cases hcons

theorem split_blank {bare : Markup} (hbare : ∀ x ∈ bare, isBare x = true) {c : Char}
    (hc : isBlank c = true) (start : Nat) (rest : Markup) :
    split start (bare ++ .char c :: rest) =
      (split (start + bare.byteLength + (Symbol.char c).byteLength) rest).map
        (ofSymbols bare start (start + bare.byteLength) ++ ·) := by
  have hhead : ∀ x ∈ (Symbol.char c :: rest).head?, isBare x = false := by
    rintro x ⟨⟩
    exact isBare_of_isBlank hc
  have hdrop := dropWhile_append_of_head? hbare hhead
  rw [split]
  split
  · next hnil =>
    rw [hdrop] at hnil
    cases hnil
  · next x rest' hcons =>
    obtain ⟨rfl, rfl⟩ := List.cons.inj (hdrop.symm.trans hcons)
    rw [quote?_of_isBlank hc, takeWhile_append_of_head? hbare hhead]

theorem split_quoted {bare quoted : Markup} (hbare : ∀ x ∈ bare, isBare x = true) {quote : Char}
    (hquote : isQuote quote = true) (hquoted : ∀ x ∈ quoted, x ≠ .char quote) (start : Nat)
    (rest : Markup) :
    ∃ stop next, split start (bare ++ .char quote :: (quoted ++ .char quote :: rest)) =
      (split next rest).map (ofSymbols (bare ++ quoted) start stop ++ ·) := by
  have hhead : ∀ x ∈ (Symbol.char quote :: (quoted ++ .char quote :: rest)).head?,
      isBare x = false := by
    rintro x ⟨⟩
    exact isBare_of_isQuote hquote
  have hdrop := dropWhile_append_of_head? hbare hhead
  have hquoted : ∀ x ∈ quoted, (!x.isChar quote) = true := by
    intro x hx
    simpa [Symbol.isChar] using hquoted x hx
  have hhead' : ∀ x ∈ (Symbol.char quote :: rest).head?, (!x.isChar quote) = false := by
    rintro x ⟨⟩
    simp [Symbol.isChar]
  have hdrop' := dropWhile_append_of_head? hquoted hhead'
  rw [split]
  split
  · next hnil =>
    rw [hdrop] at hnil
    cases hnil
  · next x inside hcons =>
    obtain ⟨rfl, rfl⟩ := List.cons.inj (hdrop.symm.trans hcons)
    rw [quote?_of_isQuote hquote]
    dsimp only
    split
    · next hnil =>
      rw [hdrop'] at hnil
      cases hnil
    · next close rest' hcons' =>
      obtain ⟨rfl, rfl⟩ := List.cons.inj (hdrop'.symm.trans hcons')
      rw [takeWhile_append_of_head? hbare hhead, takeWhile_append_of_head? hquoted hhead']
      exact ⟨_, _, rfl⟩

/-- **The reader finds the words of the grammar**, wherever the content begins. -/
theorem split_of_splits {m : Markup} {symbols : List Markup} (h : Splits m symbols) (start : Nat) :
    ∃ words, split start m = .ok words ∧ words.map Word.symbols = symbols := by
  induction h generalizing start with
  | last hbare => exact ⟨_, split_last hbare start, map_symbols_ofSymbols _ _ _⟩
  | @blank bare rest c symbols hbare hc _ ih =>
    obtain ⟨words, hwords, rfl⟩ := ih (start + bare.byteLength + (Symbol.char c).byteLength)
    rw [split_blank hbare hc, hwords]
    exact ⟨_, rfl, by rw [List.map_append, map_symbols_ofSymbols]⟩
  | @quoted bare quoted rest quote symbols hbare hquote hquoted _ ih =>
    obtain ⟨stop, next, hsplit⟩ := split_quoted hbare hquote hquoted start rest
    obtain ⟨words, hwords, rfl⟩ := ih next
    rw [hsplit, hwords]
    exact ⟨_, rfl, by rw [List.map_append, map_symbols_ofSymbols]⟩

/-! ## What words are made of -/

@[simp] theorem flatten_one (symbols : Markup) : (one symbols).flatten = symbols := by
  rw [one]
  split
  · next h => rw [h, List.flatten_nil]
  · exact List.flatten_singleton

/-- Words are cut out of the content in order. -/
theorem Splits.flatten_sublist {m : Markup} {words : List Markup} (h : Splits m words) :
    words.flatten.Sublist m := by
  induction h with
  | last => simp only [flatten_one, List.Sublist.refl]
  | @blank bare rest c words _ _ _ ih =>
    rw [List.flatten_append, flatten_one]
    exact (List.Sublist.refl bare).append (ih.cons _)
  | @quoted bare quoted rest quote words _ _ _ _ ih =>
    rw [List.flatten_append, flatten_one, List.append_assoc]
    exact (List.Sublist.refl bare).append
      (((List.Sublist.refl quoted).append (ih.cons _)).cons _)

/-- A word has quotes of one kind at most. -/
theorem Splits.no_quote {m : Markup} {words : List Markup} (h : Splits m words) :
    ∀ word ∈ words, Symbol.char '\'' ∉ word ∨ Symbol.char '"' ∉ word := by
  have hbare : ∀ {bare : Markup}, (∀ x ∈ bare, isBare x = true) → ∀ {c : Char}, isQuote c = true →
      Symbol.char c ∉ bare := by
    intro bare hbare c hc hmem
    have := hbare _ hmem
    rw [isBare_of_isQuote hc] at this
    cases this
  have hone : ∀ {symbols word : Markup}, word ∈ one symbols → word = symbols := by
    intro symbols word hword
    rw [one] at hword
    split at hword
    · cases hword
    · exact List.mem_singleton.mp hword
  induction h with
  | last h =>
    intro word hword
    rw [hone hword]
    exact .inl (hbare h rfl)
  | blank h _ _ ih =>
    intro word hword
    rcases List.mem_append.mp hword with hword | hword
    · rw [hone hword]
      exact .inl (hbare h rfl)
    · exact ih word hword
  | @quoted bare quoted rest quote words h hquote hquoted _ ih =>
    intro word hword
    rcases List.mem_append.mp hword with hword | hword
    · have hnot : Symbol.char quote ∉ bare ++ quoted := by
        rw [List.mem_append, not_or]
        exact ⟨hbare h hquote, fun hmem => hquoted _ hmem rfl⟩
      rw [hone hword]
      rcases isQuote_iff.mp hquote with rfl | rfl
      · exact .inl hnot
      · exact .inr hnot
    · exact ih word hword

/-! ## White space between words -/

/-- White space between words is passed over. -/
theorem splits_gap {gap : Text} (hgap : ∀ c ∈ gap, isBlank c = true) {m : Markup}
    {words : List Markup} (h : Splits m words) : Splits (Markup.ofText gap ++ m) words := by
  induction gap with
  | nil => exact h
  | cons c gap ih =>
    obtain ⟨hc, hgap⟩ := List.forall_mem_cons.mp hgap
    exact .blank (List.forall_mem_nil _) hc (ih hgap)

/-- White space ends the word before it, unless a quote has ended that already. -/
theorem splits_behind {before : Markup} (hbefore : ∀ x ∈ before, isBare x = true) {gap : Text}
    (hgap : ∀ c ∈ gap, isBlank c = true) (hempty : gap = [] → before = []) {m : Markup}
    {words : List Markup} (h : Splits m words) :
    Splits (before ++ (Markup.ofText gap ++ m)) (one before ++ words) := by
  cases gap with
  | nil =>
    rw [hempty rfl]
    exact h
  | cons c gap =>
    obtain ⟨hc, hgap⟩ := List.forall_mem_cons.mp hgap
    exact .blank hbefore hc (splits_gap hgap h)

end Word

end MarkupTemplate
