import MarkupTemplate.Proofs.Filling
import MarkupTemplate.Tag.Marked

/-!
# Tags that are read in marked text

    content ──Word.split──▶ words ──ofWords──▶ tag
       │                      │                 ║
     text,                  text,               ║
     sites                  sites               ║
       ▼                      ▼                 ║
    content ──Part.split──▶ parts ──ofParts──▶ tag

In markup a slot is a symbol; in its marked text it is some characters, and a site that is looked up
by an offset. `ofMarked_sites` and `readMarked_sites` say that both are read as the same tag, or
have the same fault, wherever the tag stands: what is around it may be any markup, with slots of its
own.

The splitter reads characters, and the proof reads symbols. `Splitter.readAll_sites` is the step
from one to the other: where a token stands the splitter takes all of it, and anywhere else nothing
but the character that is there.
-/

namespace MarkupTemplate

/-! ## The written form as a text -/

namespace Markup

/-- The written form is what is left when every slot is filled with its token. -/
theorem ofText_text (m : Markup) : ofText m.text = m.fill Slot.token := by
  induction m with
  | nil => rfl
  | cons x m ih =>
    rw [text_cons, ofText_append, ih, fill_cons]
    cases x <;> rfl

section Uniform

variable {p : Symbol → Bool} {q : Char → Bool} (hp : Uniform Slot.token p)

include hp

theorem dropWhile_text (hq : p ∘ .char = q) (m : Markup) :
    m.text.dropWhile q = text (m.dropWhile p) := by
  subst hq
  apply ofText_injective
  rw [ofText_text, ← hp.dropWhile_fill Slot.inert_token, ← ofText_text]
  exact List.dropWhile_map.symm

theorem takeWhile_text (hq : p ∘ .char = q) (m : Markup) :
    m.text.takeWhile q = text (m.takeWhile p) := by
  have htext : text (m.takeWhile p) ++ text (m.dropWhile p) = m.text := by
    rw [← text_append, List.takeWhile_append_dropWhile]
  have hsplit : m.text.takeWhile q ++ m.text.dropWhile q = m.text :=
    List.takeWhile_append_dropWhile
  rw [dropWhile_text hp hq] at hsplit
  exact List.append_cancel_right (hsplit.trans htext.symm)

theorem any_text (hq : p ∘ .char = q) (m : Markup) : m.text.any q = m.any p := by
  subst hq
  rw [← hp.any_fill Slot.inert_token, ← ofText_text]
  exact List.any_map.symm

theorem any_getLast?_text (hq : p ∘ .char = q) (m : Markup) :
    m.text.getLast?.any q = m.getLast?.any p := by
  subst hq
  rw [← hp.any_getLast?_fill Slot.inert_token, ← ofText_text, ofText, List.getLast?_map]
  cases m.text.getLast? <;> rfl

end Uniform

theorem trimEnd_text (m : Markup) :
    Text.trimEnd m.text = text (dropWhileEnd OpeningTag.isBlankSymbol m) := by
  apply ofText_injective
  rw [ofText_text, ← (uniform_isBlankSymbol Slot.inert_token).dropWhileEnd_fill Slot.inert_token,
    ← ofText_text]
  exact (dropWhileEnd_ofText isBlank m.text).symm

theorem trimmed_text (m : Markup) : Text.trimEnd (Text.trimStart m.text) = m.trimmed.text := by
  apply ofText_injective
  rw [← trimmed_ofText, ofText_text, trimmed_fill Slot.inert_token, ofText_text]

theorem sigil_mem_text {m : Markup} {s : Slot} (h : .slot s ∈ m) : sigil ∈ m.text :=
  List.mem_flatMap.mpr ⟨.slot s, h, List.mem_cons_self⟩

/-- Text without the sigil has no tokens in it. -/
theorem filter_plain?_text {p : Text → Bool} (hp : ∀ t, p t = true → sigil ∉ t) (m : Markup) :
    (plain? m).filter p = if p m.text then some m.text else none := by
  split
  · next h =>
    have hslot : ∀ s, Symbol.slot s ∉ m := fun s hs => hp _ h (sigil_mem_text hs)
    have hm : m = ofText m.text := by rw [ofText_text, fill_eq_self hslot]
    exact filter_plain?_eq_some_iff.mpr ⟨hm, h⟩
  · next h =>
    rw [Option.eq_none_iff_forall_ne_some]
    intro t ht
    obtain ⟨rfl, hpt⟩ := filter_plain?_eq_some_iff.mp ht
    rw [text_ofText] at h
    exact h hpt

end Markup

/-! ## From characters to symbols -/

namespace Splitter

variable {sites : List Site} {s : Splitter}

/-- Read a symbol: a character by itself, or a whole token. -/
def readSymbol (s : Splitter) (offset : Nat) : Symbol → Splitter
  | .char c => s.readChar offset c
  | .slot slot => s.pushToken offset slot

def readSymbols : Splitter → Nat → Markup → Splitter
  | s, _, [] => s
  | s, offset, x :: m => readSymbols (s.readSymbol offset x) (offset + x.byteLength) m

/-- The rest of a token is passed over. -/
theorem readAll_append_of_le {offset : Nat} {t : Text}
    (h : offset + t.byteLength ≤ s.tokenStop) (content : Text) :
    s.readAll sites offset (t ++ content)
      = s.readAll sites (offset + t.byteLength) content := by
  induction t generalizing offset with
  | nil => rfl
  | cons c t ih =>
    have hpos := c.utf8Size_pos
    rw [Text.byteLength_cons] at h ⊢
    have hread : s.read sites offset c = s := if_pos (by omega)
    rw [List.cons_append, readAll, hread, ih (by omega), Nat.add_assoc]

theorem tokenStop_readChar (s : Splitter) (offset : Nat) (c : Char) :
    (s.readChar offset c).tokenStop = s.tokenStop := by
  have hpush : (s.push offset c).tokenStop = s.tokenStop := by
    rw [push, startAt]
    dsimp only
    split <;> rfl
  have hfinish (s : Splitter) (stop next : Nat) :
      (s.finish stop next).tokenStop = s.tokenStop := by
    rw [finish]
    split <;> rfl
  rw [readChar]
  split
  · split
    · exact hfinish _ _ _
    · split
      · rfl
      · exact hpush
  · split
    · exact hfinish _ _ _
    · exact hpush

/-- What stands at a place of a marked text is read as the symbol that the markup has there. -/
theorem readAll_symbol (front : Markup) (x : Symbol) (back : Markup)
    (hs : s.tokenStop ≤ front.byteLength) (content : Text) :
    s.readAll (front ++ x :: back).sites front.byteLength (x.text ++ content)
      = (s.readSymbol front.byteLength x).readAll (front ++ x :: back).sites
          (front.byteLength + x.byteLength) content := by
  have hat := Markup.at?_sites front x back
  cases x with
  | char c =>
    have hread : s.read (front ++ .char c :: back).sites front.byteLength c
        = s.readChar front.byteLength c := by
      simp only [read, if_neg (Nat.not_lt.mpr hs), hat, Symbol.slot?]
    rw [Symbol.text, List.singleton_append, readAll, hread]
    rfl
  | slot slot =>
    have hread : s.read (front ++ .slot slot :: back).sites front.byteLength sigil
        = s.pushToken front.byteLength slot := by
      simp only [read, if_neg (Nat.not_lt.mpr hs), hat, Symbol.slot?]
    have hstop : front.byteLength + sigil.utf8Size + (Text.ofNat slot.number).byteLength
        = (s.pushToken front.byteLength slot).tokenStop := Nat.add_assoc _ _ _
    rw [Symbol.text, Slot.token, List.cons_append, readAll, hread,
      readAll_append_of_le hstop.le, hstop]
    rfl

theorem tokenStop_readSymbol_le {offset : Nat} (hs : s.tokenStop ≤ offset) (x : Symbol) :
    (s.readSymbol offset x).tokenStop ≤ offset + x.byteLength := by
  cases x with
  | char c =>
    rw [readSymbol, tokenStop_readChar]
    exact Nat.le_add_right_of_le hs
  | slot slot => exact Nat.le_refl _

/-- **The splitter reads the symbols of markup**, wherever that stands in a marked text. -/
theorem readAll_sites (front m back : Markup) (hs : s.tokenStop ≤ front.byteLength) :
    s.readAll (front ++ (m ++ back)).sites front.byteLength m.text
      = s.readSymbols front.byteLength m := by
  induction m generalizing front s with
  | nil => rfl
  | cons x m ih =>
    have hwhole : front ++ x :: (m ++ back) = (front ++ [x]) ++ (m ++ back) := by simp
    have hoffset : (front ++ [x]).byteLength = front.byteLength + x.byteLength := by simp
    have hstop := tokenStop_readSymbol_le hs x
    rw [← hoffset] at hstop
    rw [Markup.text_cons, List.cons_append, readAll_symbol front x (m ++ back) hs, hwhole,
      ← hoffset, ih (front ++ [x]) hstop, hoffset]
    rfl

end Splitter

/-! ## From words to parts -/

/-- A word as a text of its own. -/
def Word.part (word : Word) : Part := ⟨word.symbols.text, word.symbols.sites, word.span⟩

namespace Splitter

variable {parts : List Part} {taken : Markup} {start stop offset : Nat}
  {quote : Option (Char × Nat)}

/-- The splitter whose next part has some symbols so far. -/
def holding (parts : List Part) (taken : Markup) (start : Nat) (quote : Option (Char × Nat))
    (tokenStop : Nat) : Splitter :=
  ⟨parts, taken.text, taken.sites, start, quote, tokenStop⟩

theorem startAt_holding (hstart : taken = [] → quote = none → start = offset) :
    (holding parts taken start quote stop).startAt offset
      = holding parts taken start quote stop := by
  rw [startAt]
  split
  · next h =>
    have htaken : taken = [] := by
      cases taken with
      | nil => rfl
      | cons x m => exact absurd h.1 (Markup.text_ne_nil x m)
    rw [← hstart htaken h.2]
    rfl
  · rfl

/-- Whether a symbol is taken: outside of quotes if it ends no word and opens no quoted part, and
inside if it does not close that. -/
def Takes : Option (Char × Nat) → Symbol → Prop
  | none, x => Word.isBare x = true
  | some (quote, _), x => x ≠ .char quote

theorem exists_readSymbol_eq (parts : List Part) (stop : Nat)
    (hstart : taken = [] → quote = none → start = offset) {x : Symbol} (hx : Takes quote x) :
    ∃ stop', (holding parts taken start quote stop).readSymbol offset x
      = holding parts (taken ++ [x]) start quote stop' := by
  have hsites : (taken ++ [x]).sites = taken.sites ++ Markup.sitesFrom taken.byteLength [x] := by
    rw [Markup.sites, Markup.sitesFrom_append, Nat.zero_add]
    rfl
  cases x with
  | slot slot =>
    refine ⟨offset + slot.token.byteLength, ?_⟩
    rw [readSymbol, pushToken, startAt_holding hstart]
    simp only [holding, hsites, Markup.text_append, Markup.byteLength_text]
    simp [Markup.sitesFrom, Symbol.text]
  | char c =>
    refine ⟨stop, ?_⟩
    have hpush : (holding parts taken start quote stop).push offset c
        = holding parts (taken ++ [.char c]) start quote stop := by
      rw [push, startAt_holding hstart]
      simp only [holding, hsites, Markup.text_append]
      simp [Markup.sitesFrom, Symbol.text]
    rw [← hpush, readSymbol, readChar]
    cases quote with
    | none =>
      obtain ⟨hblank, hquote⟩ : isBlank c = false ∧ Word.isQuote c = false := by
        simpa [Takes, Word.isBare] using hx
      simp only [holding, hblank, hquote, Bool.false_eq_true, if_false]
    | some quote =>
      have hne : c ≠ quote.1 := fun h => hx (congrArg Symbol.char h)
      simp only [holding, if_neg hne]

theorem exists_readSymbols_append (parts : List Part) (taken : Markup) (stop offset : Nat)
    (hstart : taken = [] → quote = none → start = offset) {l : Markup}
    (hl : ∀ x ∈ l, Takes quote x) (m : Markup) :
    ∃ stop', (holding parts taken start quote stop).readSymbols offset (l ++ m)
      = (holding parts (taken ++ l) start quote stop').readSymbols (offset + l.byteLength) m := by
  induction l generalizing taken offset stop with
  | nil => exact ⟨stop, by simp⟩
  | cons x l ih =>
    obtain ⟨hx, hl⟩ := List.forall_mem_cons.mp hl
    obtain ⟨stop', hstop'⟩ := exists_readSymbol_eq parts stop hstart hx
    obtain ⟨stop'', hstop''⟩ := ih (taken ++ [x]) stop' (offset + x.byteLength) (by simp) hl
    refine ⟨stop'', ?_⟩
    rw [List.cons_append, readSymbols, hstop', hstop'', List.append_assoc, List.singleton_append,
      Markup.byteLength_cons, Nat.add_assoc]

/-- A part begins with symbols outside of quotes. -/
theorem exists_readSymbols_bare (parts : List Part) (start stop : Nat) {bare : Markup}
    (hbare : ∀ x ∈ bare, Takes none x) (m : Markup) :
    ∃ stop', (holding parts [] start none stop).readSymbols start (bare ++ m)
      = (holding parts bare start none stop').readSymbols (start + bare.byteLength) m :=
  exists_readSymbols_append parts [] stop start (fun _ _ => rfl) hbare m

theorem finish_holding (stop' next : Nat) :
    (holding parts taken start quote stop).finish stop' next
      = holding (parts ++ (Word.ofSymbols taken start stop').map Word.part) [] next quote stop := by
  cases taken with
  | nil => simp [finish, holding, Word.ofSymbols]
  | cons x m =>
    have htext : (holding parts (x :: m) start quote stop).text ≠ [] := Markup.text_ne_nil x m
    rw [finish, if_neg htext]
    simp [holding, Word.ofSymbols, Word.part, Markup.sites, Markup.sitesFrom]

theorem byteLength_of_isQuote {quote : Char} (h : Word.isQuote quote = true) :
    (Symbol.char quote).byteLength = 1 := by
  rcases Word.isQuote_iff.mp h with rfl | rfl <;> rfl

/-- It goes on in quotes, which may enclose white space and the other quote. -/
theorem exists_readSymbols_quoted (parts : List Part) (start stop : Nat) {bare quoted : Markup}
    {c : Char} (hc : Word.isQuote c = true) (hbare : ∀ x ∈ bare, Takes none x)
    (hquoted : ∀ x ∈ quoted, Takes (some (c, start + bare.byteLength)) x) (m : Markup) :
    ∃ stop', (holding parts [] start none stop).readSymbols start (bare ++ .char c :: (quoted ++ m))
      = (holding parts (bare ++ quoted) start (some (c, start + bare.byteLength)) stop').readSymbols
          (start + bare.byteLength + (Symbol.char c).byteLength + quoted.byteLength) m := by
  obtain ⟨stop₁, hread₁⟩ := exists_readSymbols_bare parts start stop hbare
    (.char c :: (quoted ++ m))
  obtain ⟨stop₂, hread₂⟩ := exists_readSymbols_append parts bare stop₁
    (start + bare.byteLength + (Symbol.char c).byteLength)
    (fun _ (h : some (c, start + bare.byteLength) = none) => nomatch h) hquoted m
  have hblank : isBlank c = false := by rcases Word.isQuote_iff.mp hc with rfl | rfl <;> rfl
  have hopen : (holding parts bare start none stop₁).readSymbol (start + bare.byteLength) (.char c)
      = holding parts bare start (some (c, start + bare.byteLength)) stop₁ := by
    simp only [readSymbol, readChar, holding, hblank, hc, Bool.false_eq_true, if_false, if_true]
  refine ⟨stop₂, ?_⟩
  rw [hread₁, readSymbols, hopen, hread₂]

/-- White space completes the part that it follows. -/
theorem readSymbol_blank {c : Char} (hc : isBlank c = true) (parts : List Part) (taken : Markup)
    (start stop offset : Nat) :
    (holding parts taken start none stop).readSymbol offset (.char c)
      = holding (parts ++ (Word.ofSymbols taken start offset).map Word.part) []
          (offset + (Symbol.char c).byteLength) none stop := by
  rw [← finish_holding]
  exact if_pos hc

/-- So does the quote that ends its quoted part. -/
theorem readSymbol_closing {c : Char} (hc : Word.isQuote c = true) (parts : List Part)
    (taken : Markup) (start opened stop offset : Nat) :
    (holding parts taken start (some (c, opened)) stop).readSymbol offset (.char c)
      = holding (parts ++ (Word.ofSymbols taken start
          (offset + (Symbol.char c).byteLength)).map Word.part) []
          (offset + (Symbol.char c).byteLength) none stop := by
  rw [← finish_holding, byteLength_of_isQuote hc]
  exact if_pos rfl

theorem map_parts_append (parts : List Part) (front : List Word)
    (words : Except Misreading (List Word)) :
    words.map (parts ++ front.map Word.part ++ ·.map Word.part)
      = (words.map (front ++ ·)).map (parts ++ ·.map Word.part) := by
  cases words with
  | error e => rfl
  | ok words => simp [Except.map]

/-- **What the splitter finds are the words**, each as a text of its own. -/
theorem close_readSymbols (start : Nat) (m : Markup) (parts : List Part) (stop : Nat) :
    ((holding parts [] start none stop).readSymbols start m).close (start + m.byteLength)
      = (Word.split start m).map (parts ++ ·.map Word.part) := by
  fun_induction Word.split start m generalizing parts stop with
  | case1 start m bare stop' =>
    rename_i hdrop
    have hbare : ∀ x ∈ m, Takes none x := List.dropWhile_eq_nil_iff.mp hdrop
    have hm : bare = m := List.takeWhile_eq_self_iff.mpr hbare
    obtain ⟨stop₁, hread⟩ := exists_readSymbols_bare parts start stop hbare []
    rw [List.append_nil] at hread
    rw [hread, hm]
    show Except.ok (Splitter.parts (finish (holding ..) _ _)) = _
    rw [finish_holding, ← hm]
    rfl
  | case2 start m bare stop' x rest hdrop hquote =>
    rename_i ih
    obtain ⟨hm, hx⟩ := eq_append_of_dropWhile hdrop
    obtain ⟨c, rfl, hc⟩ := Word.blank_of_quote?_eq_none hx hquote
    have hbare : ∀ y ∈ bare, Takes none y := fun y hy => List.mem_takeWhile_imp hy
    obtain ⟨stop₁, hread⟩ := exists_readSymbols_bare parts start stop hbare (.char c :: rest)
    have hlength : stop' + (Symbol.char c).byteLength + Markup.byteLength rest
        = start + m.byteLength := by
      rw [hm, Markup.byteLength_append, Markup.byteLength_cons]
      simp only [stop', bare, Nat.add_assoc]
    rw [← hlength, hm, hread, readSymbols, readSymbol_blank hc, ih]
    exact map_parts_append parts _ _
  | case3 start m bare stop' x rest hdrop quote hquote =>
    rename_i hdrop'
    obtain ⟨hm, -⟩ := eq_append_of_dropWhile hdrop
    obtain ⟨rfl, hopen⟩ := Word.quote?_eq_some hquote
    have hbare : ∀ y ∈ bare, Takes none y := fun y hy => List.mem_takeWhile_imp hy
    have hquoted : ∀ y ∈ rest, Takes (some (quote, stop')) y := by
      simpa [Takes, Symbol.isChar] using List.dropWhile_eq_nil_iff.mp hdrop'
    obtain ⟨stop₁, hread⟩ := exists_readSymbols_quoted parts start stop hopen hbare hquoted []
    rw [List.append_nil] at hread
    rw [hm, hread]
    rfl
  | case4 start m bare stop' x rest hdrop quote hquote quoted close rest' hdrop' stop'' =>
    rename_i ih
    obtain ⟨hm, -⟩ := eq_append_of_dropWhile hdrop
    obtain ⟨hrest, hclose⟩ := eq_append_of_dropWhile hdrop'
    obtain ⟨rfl, hopen⟩ := Word.quote?_eq_some hquote
    obtain rfl : close = .char quote := by simpa [Symbol.isChar] using hclose
    have hbare : ∀ y ∈ bare, Takes none y := fun y hy => List.mem_takeWhile_imp hy
    have hquoted : ∀ y ∈ quoted, Takes (some (quote, stop')) y := by
      intro y hy
      simpa [Takes, Symbol.isChar] using List.mem_takeWhile_imp hy
    obtain ⟨stop₁, hread⟩ := exists_readSymbols_quoted parts start stop hopen hbare hquoted
      (.char quote :: rest')
    rw [← hrest, ← hm, readSymbols, readSymbol_closing hopen] at hread
    have hlength : stop'' + Markup.byteLength rest' = start + m.byteLength := by
      rw [hm, hrest, Markup.byteLength_append, Markup.byteLength_cons, Markup.byteLength_append,
        Markup.byteLength_cons]
      simp only [stop'', stop', bare, quoted, Nat.add_assoc]
    rw [← hlength, hread]
    refine (ih _ stop₁).trans ?_
    exact map_parts_append parts _ _

end Splitter

/-- The parts of a content are its words, wherever the content stands. -/
theorem Part.split_sites (front content back : Markup) :
    Part.split (front ++ (content ++ back)).sites front.byteLength content.text
      = (Word.split front.byteLength content).map (·.map Word.part) := by
  have hread := Splitter.readAll_sites (s := Splitter.initial front.byteLength) front content back
    (Nat.le_refl _)
  rw [Part.split, hread, Markup.byteLength_text]
  exact Splitter.close_readSymbols front.byteLength content [] front.byteLength

/-! ## From parts to the tag -/

namespace OpeningTag

section

variable [Alphabet]

theorem notSlot_of_isAttributeName {m : Markup} (h : isAttributeName m.text = true) (s : Slot) :
    .slot s ∉ m :=
  fun hs => notMem_name h (by decide) (Markup.sigil_mem_text hs)

theorem sites_eq_nil_of_isAttributeName {m : Markup} (h : isAttributeName m.text = true)
    (offset : Nat) : m.sitesFrom offset = [] := by
  have hm : m = .ofText m.text := by
    rw [Markup.ofText_text, Markup.fill_eq_self (notSlot_of_isAttributeName h)]
  rw [hm, Markup.sitesFrom_ofText]

theorem filter_isAttributeName (m : Markup) :
    (Markup.plain? m).filter isAttributeName
      = if isAttributeName m.text then some m.text else none :=
  Markup.filter_plain?_text (fun _ h => notMem_name h (by decide)) m

end

theorem uniform_isEquals : Uniform Slot.token (!·.isChar '=') :=
  Uniform.not fun s c hc => by
    have hne : c ≠ '=' := by
      rintro rfl
      exact Slot.notMem_token (by decide) (by decide) s hc
    simp [Symbol.isChar, hne]

theorem isEquals_comp_char : (!Symbol.isChar '=' ·) ∘ Symbol.char = (· != '=') := by
  funext c
  simp [Symbol.isChar, bne, beq_eq_decide]

/-- The value of an attribute stands behind the `=`, in the written form as in the markup. -/
theorem text_drop_one {m : Markup} (h : ∀ x ∈ m.head?, x = .char '=') :
    m.text.drop 1 = Markup.text (m.drop 1) := by
  cases m with
  | nil => rfl
  | cons x m =>
    obtain rfl := h x rfl
    rfl

theorem sitesFrom_drop_one {m : Markup} (h : ∀ x ∈ m.head?, x = .char '=') (offset : Nat) :
    m.sitesFrom offset = Markup.sitesFrom (offset + 1) (m.drop 1) := by
  cases m with
  | nil => rfl
  | cons x m =>
    obtain rfl := h x rfl
    rfl

section

variable [Alphabet]

/-- A part sets what its word sets. -/
theorem readPart_part (tag : OpeningTag) (word : Word) :
    readPart tag word.part = readWord tag word := by
  let name : Markup := word.symbols.takeWhile (!·.isChar '=')
  let rest : Markup := word.symbols.dropWhile (!·.isChar '=')
  let value : Markup := rest.drop 1
  have hequals : ∀ x ∈ rest.head?, x = .char '=' := by
    intro x hx
    have hnot := List.head?_dropWhile_not (fun x : Symbol => !x.isChar '=') word.symbols
    rw [hx] at hnot
    simpa [Symbol.isChar] using hnot
  have hname : word.symbols.text.takeWhile (· != '=') = name.text :=
    Markup.takeWhile_text uniform_isEquals isEquals_comp_char word.symbols
  have hrest : word.symbols.text.dropWhile (· != '=') = rest.text :=
    Markup.dropWhile_text uniform_isEquals isEquals_comp_char word.symbols
  have hsites : word.symbols.sites = name.sites ++ value.sitesFrom (name.byteLength + 1) := by
    have hsymbols : word.symbols = name ++ rest := List.takeWhile_append_dropWhile.symm
    rw [hsymbols, Markup.sites, Markup.sitesFrom_append, Nat.zero_add, sitesFrom_drop_one hequals]
    rfl
  simp only [readPart, readWord, Word.part, filter_isAttributeName, hname, hrest,
    text_drop_one hequals, Markup.byteLength_text]
  by_cases hattribute : isAttributeName name.text = true
  · have hnone : (value.sitesFrom (name.byteLength + 1)).any
        (·.offset < name.byteLength + 1) = false := by
      rw [List.any_eq_false]
      intro site hsite
      have hle := Markup.le_offset_of_mem_sitesFrom hsite
      simpa using hle
    have hscan : Interpolation.scan value.text
        ((value.sitesFrom (name.byteLength + 1)).map (Site.rebase (name.byteLength + 1)))
          = .ofMarkup value :=
      (congrArg _ (Markup.map_rebase_sitesFrom (name.byteLength + 1) 0 value)).trans
        (Interpolation.scan_sites value)
    have hnil : name.sites = [] := sites_eq_nil_of_isAttributeName hattribute 0
    rw [hnil, List.nil_append] at hsites
    rw [if_pos hattribute, hsites, hnone, hattribute]
    exact congrArg (fun value => Except.ok (tag.withValue name.text value)) hscan
  · rw [if_neg hattribute, if_pos (by simp [hattribute])]

theorem ofParts_part (start : Nat) (words : List Word) :
    ofParts start (words.map Word.part) = ofWords start words := by
  have hread : ∀ (words : List Word) (tag : OpeningTag),
      (words.map Word.part).foldlM readPart tag = words.foldlM readWord tag := by
    intro words
    induction words with
    | nil => intro tag; rfl
    | cons word words ih =>
      intro tag
      simp only [List.map_cons, List.foldlM_cons, readPart_part, ih]
  cases words with
  | nil => rfl
  | cons word rest =>
    have hname := Markup.filter_plain?_text (p := isTagName)
      (fun _ h => notMem_name (isAttributeName_of_isTagName h) (by decide)) word.symbols
    simp only [List.map_cons, ofParts, ofWords, hname, hread, Word.part]
    by_cases htag : isTagName word.symbols.text = true
    · have hsites := sites_eq_nil_of_isAttributeName (isAttributeName_of_isTagName htag) 0
      simp [Markup.sites, hsites, htag]
    · simp [htag]

/-- **A tag is read in a marked text as it is read in markup**, wherever it stands. -/
theorem ofMarked_sites (front content back : Markup) :
    ofMarked (front ++ (content ++ back)).sites front.byteLength content.text
      = ofContent front.byteLength content := by
  rw [ofMarked, ofContent, Part.split_sites]
  cases Word.split front.byteLength content with
  | error e => rfl
  | ok words => exact ofParts_part front.byteLength words

end

/-! ## The slash and the space around the content -/

theorem splitSlash_text (m : Markup) :
    Text.splitSlash m.text = ((splitSlash m).1.text, (splitSlash m).2) := by
  rcases List.eq_nil_or_concat m with rfl | ⟨front, x, rfl⟩
  · rfl
  rw [List.concat_eq_append, Text.splitSlash, splitSlash]
  cases x with
  | slot s =>
    -- A token ends with a digit.
    have hlast : (Markup.text (front ++ [.slot s])).getLast? ≠ some '/' := by
      intro h
      have hmem : '/' ∈ s.token := by
        obtain ⟨t, c, ht⟩ := (List.eq_nil_or_concat s.token).resolve_left (List.cons_ne_nil _ _)
        rw [Markup.text_append, Markup.text_cons, Markup.text_nil, List.append_nil, Symbol.text, ht,
          List.concat_eq_append, ← List.append_assoc, List.getLast?_concat] at h
        cases h
        simp [ht]
      exact Slot.notMem_token (by decide) (by decide) s hmem
    rw [if_neg (fun h => hlast h.1), if_neg (by simp)]
  | char c =>
    have htext : Markup.text (front ++ [.char c]) = Markup.text front ++ [c] := by
      simp [Symbol.text]
    have hblank := Markup.any_text (uniform_isBlankSymbol Slot.inert_token) (q := isBlank) rfl front
    have hquote := Markup.any_getLast?_text (uniform_isBlank_or_isQuote Slot.inert_token)
      (q := fun c => isBlank c || Word.isQuote c) rfl front
    rw [htext, List.dropLast_concat, List.dropLast_concat, List.getLast?_concat,
      List.getLast?_concat, hblank, hquote, Markup.trimEnd_text]
    simp only [Option.some.injEq, Symbol.char.injEq]
    split
    · rfl
    · rw [htext]

/-- **The content of a tag is read in a marked text as it is read in markup.** -/
theorem readMarked_sites [Alphabet] (front content back : Markup) {span : Span}
    (hspan : span.start + 1 = front.byteLength) :
    readMarked (front ++ (content ++ back)).sites span content.text = read span content := by
  let leading : Markup := content.takeWhile isBlankSymbol
  let rest : Markup := content.dropWhile isBlankSymbol
  let inner : Markup := (splitSlash content.trimmed).1
  obtain ⟨behind, hbehind⟩ : inner <+: rest :=
    (isPrefix_splitSlash _).trans (by
      rw [Markup.trimmed, dropWhileEnd_eq_rdropWhile]
      exact List.rdropWhile_prefix _ _)
  have hwhole : front ++ (content ++ back) = (front ++ leading) ++ (inner ++ (behind ++ back)) := by
    rw [← List.append_assoc inner, hbehind, ← List.append_assoc, List.append_assoc front leading,
      ← List.append_assoc leading, List.takeWhile_append_dropWhile, List.append_assoc]
  have hblank := uniform_isBlankSymbol Slot.inert_token
  have hleading : content.text.takeWhile isBlank = leading.text :=
    Markup.takeWhile_text hblank rfl content
  have hname : ∀ t, isTagName t = true → sigil ∉ t :=
    fun _ h => notMem_name (isAttributeName_of_isTagName h) (by decide)
  have hstart : span.start + 1 + leading.byteLength = (front ++ leading).byteLength := by
    rw [hspan, Markup.byteLength_append]
  rw [readMarked, read, Markup.trimmed_text, splitSlash_text, hleading]
  simp only [Markup.any_text hblank (q := isBlank) rfl, Markup.byteLength_text, hstart]
  rw [hwhole, ofMarked_sites (front ++ leading) inner (behind ++ back), ← hstart]
  -- What is left is the tag that has nothing but a name.
  split
  · next hspace => exact (if_pos hspace).symm
  · next hspace =>
    have hbare : (Markup.plain? (splitSlash (dropWhileEnd isBlankSymbol
        (content.dropWhile isBlankSymbol))).1).filter isTagName
          = if isTagName inner.text then some inner.text else none :=
      Markup.filter_plain?_text hname inner
    refine Eq.trans ?_ (if_neg hspace).symm
    rw [hbare]
    split <;> rfl

end OpeningTag

end MarkupTemplate
