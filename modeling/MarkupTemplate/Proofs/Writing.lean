import MarkupTemplate.Proofs.FilledTags
import MarkupTemplate.Proofs.Rendering

/-!
# Writing elements as markup

    element ──write──▶ text ──cut──▶ lexemes ──read──▶ tree ──evaluate──▶ element

Some elements can be written as markup without values: `Rendered.IsWritable` says which. The writer
puts every attribute in quotes, in the order of the attributes, and closes every element that is not
void. It takes no care of the texts that it writes, so `IsWritable.render_write` needs all that
`IsWritable` says: what is written then renders back to the element.
-/

namespace MarkupTemplate

/-! ## What can be written -/

/-- Whether a text can be the value of an attribute. -/
structure Text.IsValue (t : Text) : Prop where
  no_bracket : ∀ c ∈ t, c ≠ '<' ∧ c ≠ '>'
  /-- One kind of quote is left to put the text in. -/
  no_quote : '\'' ∉ t ∨ '"' ∉ t

/-- Whether a text can be the content of an element. -/
structure Text.IsBody (t : Text) : Prop where
  ne_nil : t ≠ []
  trim_eq_self : trimEnd (trimStart t) = t
  no_bracket : '<' ∉ t
  no_lineBreak : '\r' ∉ t ∧ '\n' ∉ t

/-- Whether an element can be written as far as its head goes. -/
structure Head.IsWritable [Alphabet] (head : Head Unit Text) : Prop where
  keyless : head.key = none
  tagName : isTagName head.tag = true
  attributeNames : ∀ e ∈ head.attributes.entries, isAttributeName e.1 = true
  values : ∀ e ∈ head.attributes.entries, e.2.IsValue

namespace Rendered

variable [Alphabet]

mutual
/-- Whether an element can be written as markup without values. -/
inductive IsWritable (dialect : Dialect) : Rendered → Prop
  | text {head : Head Unit Text} {body : Text} :
      head.IsWritable → dialect.isVoid head.tag = false → body.IsBody →
      IsWritable dialect (.mk head (.text body))
  | nodes {head : Head Unit Text} {children : List (Child Rendered Splice)} :
      head.IsWritable → (dialect.isVoid head.tag = true → children = []) →
      AreWritable dialect children → IsWritable dialect (.mk head (.nodes children))

/-- Whether children can be written: they are elements that can be. -/
inductive AreWritable (dialect : Dialect) : List (Child Rendered Splice) → Prop
  | nil : AreWritable dialect []
  | element {e : Rendered} {rest : List (Child Rendered Splice)} :
      IsWritable dialect e → AreWritable dialect rest → AreWritable dialect (.element e :: rest)
end

end Rendered

/-! ## The writer -/

/-- A choice of the quotes to put values in. -/
structure Quoting where
  quote : Text → Char
  isQuote (t : Text) : Word.isQuote (quote t) = true
  /-- The quote is not in the value if that leaves one of the two. -/
  notMem {t : Text} : '\'' ∉ t ∨ '"' ∉ t → quote t ∉ t

/-- Double quotes, and single quotes for a value that has double quotes in it. -/
def Quoting.double : Quoting where
  quote t := if '"' ∈ t then '\'' else '"'
  isQuote t := by split <;> rfl
  notMem {t} h := by
    split
    · next hmem => exact h.resolve_right (not_not_intro hmem)
    · next hmem => exact hmem

namespace Rendered

variable (dialect : Dialect) (q : Quoting)

/-- An attribute, behind a space. -/
def writeAttribute (e : Text × Text) : Text :=
  ' ' :: (e.1 ++ '=' :: q.quote e.2 :: (e.2 ++ [q.quote e.2]))

/-- What stands between the brackets of an opening tag. -/
def writeHead (head : Head Unit Text) : Text :=
  head.tag ++ head.attributes.entries.flatMap (writeAttribute q)

/-- An opening tag. -/
def writeOpening (head : Head Unit Text) : Text := '<' :: (writeHead q head ++ ['>'])

/-- A closing tag. -/
def writeClosing (tag : Text) : Text := '<' :: '/' :: (tag ++ ['>'])

mutual
/-- The markup of an element. -/
def write : Rendered → Text
  | .mk head (.text body) => writeOpening q head ++ body ++ writeClosing head.tag
  | .mk head (.nodes children) =>
    if dialect.isVoid head.tag then writeOpening q head
    else writeOpening q head ++ writeAll children ++ writeClosing head.tag

/-- The markup of children, without the splices. -/
def writeAll : List (Child Rendered Splice) → Text
  | [] => []
  | .element e :: rest => write e ++ writeAll rest
  | .splice _ :: rest => writeAll rest
end

end Rendered

example :
    Rendered.write .standard .double
      (.mk ⟨txt "p", none, .ofList [(txt "title", txt "a \"b\" c"), (txt "hidden", [])], ()⟩
        (.nodes [.element (Rendered.ofTag (txt "br")),
          .element ((Rendered.ofTag (txt "b")).withText (txt "x > y"))]))
      = txt "<p title='a \"b\" c' hidden=\"\"><br><b>x > y</b></p>" := by
  decide +kernel

variable {dialect : Dialect} {q : Quoting}

/-! ## Opening tags -/

/-- The tag that says what a head does. -/
def OpeningTag.ofHead (head : Head Unit Text) : OpeningTag :=
  ⟨head.tag, head.attributes.map fun t => .ofMarkup (Markup.ofText t), none⟩

namespace Rendered

open OpeningTag Markup

theorem isBare_of_name [Alphabet] {name : Text} (h : isAttributeName name = true) :
    ∀ x ∈ ofText name, Word.isBare x = true := by
  refine forall_mem_ofText.mpr fun c hc => ?_
  simp [Word.isBare, isBlank_of_mem_name h hc, isQuote_of_mem_name h hc]

/-- The words of attributes that are written behind part of a word. -/
theorem splits_writeAttribute [Alphabet] {entries : List (Text × Text)}
    (hname : ∀ e ∈ entries, isAttributeName e.1 = true) (hvalue : ∀ e ∈ entries, e.2.IsValue)
    {bare : Markup} (hbare : ∀ x ∈ bare, Word.isBare x = true) :
    Word.Splits (bare ++ ofText (entries.flatMap (writeAttribute q)))
      (Word.one bare ++ entries.map fun e => ofText e.1 ++ .char '=' :: ofText e.2) := by
  induction entries generalizing bare with
  | nil =>
    rw [List.flatMap_nil, ofText_nil, List.append_nil, List.map_nil, List.append_nil]
    exact .last hbare
  | cons e entries ih =>
    have hname := List.forall_mem_cons.mp hname
    have hvalue := List.forall_mem_cons.mp hvalue
    have hrest : Word.Splits ([] ++ ofText (entries.flatMap (writeAttribute q))) _ :=
      ih hname.2 hvalue.2 (by simp)
    have hequals : ∀ x ∈ ofText e.1 ++ [.char '='], Word.isBare x = true := by
      intro x hx
      rcases List.mem_append.mp hx with hx | hx
      · exact isBare_of_name hname.1 x hx
      · rw [List.mem_singleton.mp hx]
        decide
    have hquoted : ∀ x ∈ ofText e.2, x ≠ .char (q.quote e.2) := by
      rintro x hx rfl
      exact q.notMem hvalue.1.no_quote (char_mem_ofText.mp hx)
    have hword := Word.Splits.blank hbare (c := ' ') rfl
      (.quoted hequals (q.isQuote e.2) hquoted hrest)
    simpa [writeAttribute, Word.one] using hword

variable {head : Head Unit Text}

theorem splits_writeHead [Alphabet] (h : head.IsWritable) :
    Word.Splits (ofText (writeHead q head))
      (ofText head.tag ::
        head.attributes.entries.map fun e => ofText e.1 ++ .char '=' :: ofText e.2) := by
  have htag := isAttributeName_of_isTagName h.tagName
  have hne : ofText head.tag ≠ [] := by
    intro hnil
    exact ne_nil_of_isAttributeName htag (List.map_eq_nil_iff.mp hnil)
  have hwords := splits_writeAttribute (q := q) h.attributeNames h.values (isBare_of_name htag)
  rwa [Word.one_ne_nil hne, ← ofText_append] at hwords

theorem ofSettings_eq_ofHead (head : Head Unit Text) :
    ofSettings head.tag (head.attributes.entries.map fun e => (e.1, ofText e.2)) = ofHead head := by
  have hstatic : ∀ setting ∈ head.attributes.entries.map fun e => (e.1, ofText e.2),
      ∀ s, Symbol.slot s ∉ setting.2 := by
    intro setting hsetting s hs
    obtain ⟨e, -, rfl⟩ := List.mem_map.mp hsetting
    exact slot_notMem_ofText s e.2 hs
  rw [ofSettings, foldl_withSetting_of_static hstatic, ofHead]
  congr 1
  apply Attributes.ext
  have hentries := Attributes.entries_ofList
    (head.attributes.map fun t => Interpolation.ofMarkup (ofText t)).nodup
  rw [Attributes.ofList, Attributes.entries_map, List.foldl_map] at hentries
  rw [List.foldl_map]
  exact hentries

theorem getLast?_writeAttribute (e : Text × Text) :
    (writeAttribute q e).getLast? = some (q.quote e.2) := by
  have hwritten : writeAttribute q e
      = (' ' :: (e.1 ++ '=' :: q.quote e.2 :: e.2)) ++ [q.quote e.2] := by simp [writeAttribute]
  rw [hwritten, List.getLast?_concat]

variable [Alphabet]

/-- An opening tag ends with a quote or with the last character of its name. -/
theorem getLast?_writeHead (h : head.IsWritable) :
    ∃ c, (writeHead q head).getLast? = some c ∧ isBlank c = false ∧ c ≠ '/' := by
  rw [writeHead]
  rcases List.eq_nil_or_concat head.attributes.entries with hnil | ⟨entries, e, hconcat⟩
  · have htag := isAttributeName_of_isTagName h.tagName
    obtain ⟨front, c, hc⟩ :=
      (List.eq_nil_or_concat head.tag).resolve_left (ne_nil_of_isAttributeName htag)
    have hmem : c ∈ head.tag := by simp [hc]
    refine ⟨c, by simp [hnil, hc], isBlank_of_mem_name htag hmem, ?_⟩
    rintro rfl
    exact notMem_name htag (by decide) hmem
  · have hquote := q.isQuote e.2
    refine ⟨q.quote e.2, ?_, ?_, ?_⟩
    · simp [hconcat, List.getLast?_append, getLast?_writeAttribute]
    · rcases Word.isQuote_iff.mp hquote with hq | hq <;> rw [hq] <;> rfl
    · intro hslash
      rw [hslash] at hquote
      cases hquote

/-- **What is written in an opening tag spells the head.** -/
theorem spells_writeHead (h : head.IsWritable) :
    Spells (ofText (writeHead q head)) (ofHead head) false := by
  have htag := isAttributeName_of_isTagName h.tagName
  obtain ⟨last, hlast, hblank, hslash⟩ := getLast?_writeHead (q := q) h
  have hlast : (ofText (writeHead q head)).getLast? = some (.char last) := by
    rw [ofText, List.getLast?_map, hlast]
    rfl
  have htrimmed : (ofText (writeHead q head)).trimmed = ofText (writeHead q head) := by
    apply trimmed_eq_self
    · intro x hx
      obtain ⟨c, name, hc⟩ := List.exists_cons_of_ne_nil (ne_nil_of_isAttributeName htag)
      obtain rfl : .char c = x := by simpa [writeHead, hc] using hx
      exact isBlank_of_mem_name htag (by simp [hc])
    · intro x hx
      obtain rfl : .char last = x := by simpa [hlast] using hx
      exact hblank
  have hsplit : splitSlash (ofText (writeHead q head)).trimmed
      = (ofText (writeHead q head), false) := by
    rw [htrimmed, splitSlash_of_getLast?]
    rw [hlast]
    simpa using hslash
  rw [← ofSettings_eq_ofHead]
  cases hentries : head.attributes.entries with
  | nil =>
    rw [writeHead, hentries, List.flatMap_nil, List.append_nil] at hsplit ⊢
    exact .bare h.tagName hsplit
  | cons e entries =>
    have hany : (ofText (writeHead q head)).any isBlankSymbol = true := by
      rw [List.any_eq_true]
      exact ⟨.char ' ', by simp [writeHead, hentries, writeAttribute], rfl⟩
    have hsays : List.Forall₂ Says
        (head.attributes.entries.map fun e => ofText e.1 ++ .char '=' :: ofText e.2)
        (head.attributes.entries.map fun e => (e.1, ofText e.2)) := by
      rw [List.forall₂_map_left_iff, List.forall₂_map_right_iff, List.forall₂_same]
      exact fun e he => .valued (h.attributeNames e he)
    rw [← hentries]
    exact .words hany (splits_writeHead h) (.mk h.tagName hsays) hsplit

theorem evaluateHead_ofHead [NumberFormat] (h : head.IsWritable) (b : Bindings) (span : Span) :
    Tree.evaluateHead b ((ofHead head).head span) = .ok head := by
  have hentries : ∀ l : List (Text × Text), Tree.evaluateEntries b
      (l.map fun e => (e.1, Interpolation.ofMarkup (ofText e.2))) = .ok l := by
    intro l
    induction l with
    | nil => rfl
    | cons e l ih =>
      rw [List.map_cons, Tree.evaluateEntries,
        Interpolation.resolve_of_symbols b (Interpolation.symbols_ofMarkup _), ih]
      rfl
  exact (Tree.evaluateHead_eq_ok_iff rfl).mpr ⟨rfl, h.keyless, hentries head.attributes.entries⟩

/-- Nothing in an opening tag ends it. -/
theorem no_bracket_writeHead (h : head.IsWritable) :
    ∀ c ∈ writeHead q head, c ≠ '<' ∧ c ≠ '>' := by
  intro c hc
  rcases List.mem_append.mp hc with hc | hc
  · exact no_bracket_of_mem_name (isAttributeName_of_isTagName h.tagName) hc
  · obtain ⟨e, he, hc⟩ := List.mem_flatMap.mp hc
    have hquote : q.quote e.2 ≠ '<' ∧ q.quote e.2 ≠ '>' := by
      rcases Word.isQuote_iff.mp (q.isQuote e.2) with hq | hq <;> rw [hq] <;> decide
    simp only [writeAttribute, List.mem_cons, List.mem_append, List.not_mem_nil, or_false] at hc
    rcases hc with rfl | hc | rfl | rfl | hc | rfl
    · decide
    · exact no_bracket_of_mem_name (h.attributeNames e he) hc
    · decide
    · exact hquote
    · exact (h.values e he).no_bracket c hc
    · exact hquote

end Rendered

/-! ## Lexemes -/

/-- A text without white space stays as it is. -/
theorem Text.trim_eq_self {t : Text} (h : ∀ c ∈ t, isBlank c = false) :
    trimEnd (trimStart t) = t := by
  have hblank : ∀ x ∈ Markup.ofText t, OpeningTag.isBlankSymbol x = false :=
    Markup.forall_mem_ofText.mpr h
  apply Markup.ofText_injective
  rw [← Markup.trimmed_ofText]
  exact Markup.trimmed_eq_self (fun x hx => hblank x (List.mem_of_head? hx))
    (fun x hx => hblank x (List.mem_of_getLast? hx))

/-- A closing tag with a name and nothing else. -/
theorem Tag.closing?_of_name [Alphabet] {t : Tag} {name : Text}
    (hname : isAttributeName name = true)
    (ht : t.content = .char '/' :: Markup.ofText name) : t.closing? = some name := by
  refine closing?_eq_some_iff.mpr ⟨_, ht, ?_⟩
  rw [Markup.text_ofText]
  exact Text.trim_eq_self fun c hc => isBlank_of_mem_name hname hc

namespace Text.IsBody

variable {body : Text} {r : Run}

theorem isBlank_run (h : body.IsBody) (hr : r.symbols = Markup.ofText body) :
    r.isBlank = false := by
  by_contra hblank
  rw [Bool.not_eq_false, Run.isBlank, hr, List.all_eq_true] at hblank
  have hall : ∀ c ∈ body, isBlank c = true := Markup.forall_mem_ofText.mp hblank
  have hstart : trimStart body = [] := List.dropWhile_eq_nil_iff.mpr hall
  have htrim := h.trim_eq_self
  rw [hstart] at htrim
  exact h.ne_nil htrim.symm

/-- A run of a text that can be content is that text. -/
theorem resolve_run [NumberFormat] (h : body.IsBody) (hr : r.symbols = Markup.ofText body)
    (b : Bindings) :
    r.text.resolve b = .ok body := by
  have hfilter : body.filter (!Interpolation.isLineBreak ·) = body := by
    rw [List.filter_eq_self]
    intro c hc
    have hne : c ≠ '\r' ∧ c ≠ '\n' :=
      ⟨fun h' => h.no_lineBreak.1 (h' ▸ hc), fun h' => h.no_lineBreak.2 (h' ▸ hc)⟩
    simp [Interpolation.isLineBreak, hne]
  apply Interpolation.resolve_of_symbols
  rw [Run.symbols_text, hr, Markup.normalized, Markup.filter_ofText, hfilter,
    Markup.trimmed_ofText, h.trim_eq_self]

end Text.IsBody

/-- Whether markup is cut into lexemes with a property, wherever it begins. -/
def CutsInto (m : Markup) (P : List Lexeme → Prop) : Prop :=
  ∀ start, ∃ l, Cuts start m l ∧ P l

namespace CutsInto

variable {P : List Lexeme → Prop} {rest : Markup}

theorem nil : CutsInto [] fun l => ∃ r : Run, l = [.run r] ∧ r.isBlank = true :=
  fun start => ⟨_, .last (by simp), ⟨start, []⟩, rfl, rfl⟩

theorem tag {text content : Text} (htext : '<' ∉ text) (hcontent : ∀ c ∈ content, c ≠ '<' ∧ c ≠ '>')
    (hrest : CutsInto rest P) :
    CutsInto (Markup.ofText (text ++ '<' :: (content ++ ['>'])) ++ rest) fun l =>
      ∃ r t l', l = .run r :: .tag t :: l' ∧ r.symbols = Markup.ofText text ∧
        t.content = Markup.ofText content ∧ P l' := by
  intro start
  have htext : ∀ x ∈ Markup.ofText text, x ≠ .char '<' := by
    rintro x hx rfl
    exact htext (Markup.char_mem_ofText.mp hx)
  have hcontent : ∀ x ∈ Markup.ofText content, x ≠ .char '<' ∧ x ≠ .char '>' := by
    simpa [Markup.forall_mem_ofText] using hcontent
  obtain ⟨l, hl, hP⟩ := hrest (start + (Markup.ofText text).byteLength + 1
    + (Markup.ofText content).byteLength + 1)
  have hcuts := Cuts.tag htext hcontent hl
  have hm : Markup.ofText (text ++ '<' :: (content ++ ['>'])) ++ rest
      = Markup.ofText text ++ .char '<' :: (Markup.ofText content ++ .char '>' :: rest) := by simp
  rw [hm]
  exact ⟨_, hcuts, ⟨start, Markup.ofText text⟩, ⟨_, Markup.ofText content⟩, l, rfl, rfl, rfl, hP⟩

variable [Alphabet]

theorem opening {head : Head Unit Text} (h : head.IsWritable) (hrest : CutsInto rest P) :
    CutsInto (Markup.ofText (Rendered.writeOpening q head) ++ rest) fun l =>
      ∃ r t l', l = .run r :: .tag t :: l' ∧ r.isBlank = true ∧
        t.Opens (.ofHead head) false ∧ P l' := by
  have hempty : '<' ∉ ([] : Text) := List.not_mem_nil
  intro start
  obtain ⟨_, hcuts, r, t, l, rfl, hr, ht, hP⟩ :=
    tag hempty (Rendered.no_bracket_writeHead (q := q) h) hrest start
  refine ⟨_, hcuts, r, t, l, rfl, by rw [Run.isBlank, hr]; rfl, ⟨?_, ?_⟩, hP⟩
  · have htag := isAttributeName_of_isTagName h.tagName
    obtain ⟨c, name, hc⟩ := List.exists_cons_of_ne_nil (ne_nil_of_isAttributeName htag)
    refine Tag.closing?_eq_none ?_
    rw [ht, Rendered.writeHead, hc]
    rintro ⟨⟩
    have hmem : '/' ∈ head.tag := by simp [hc]
    exact notMem_name htag (by decide) hmem
  · rw [ht]
    exact OpeningTag.read_eq_ok_iff.mpr (Rendered.spells_writeHead h)

theorem closing {text name : Text} (htext : '<' ∉ text) (hname : isTagName name = true)
    (hrest : CutsInto rest P) :
    CutsInto (Markup.ofText (text ++ Rendered.writeClosing name) ++ rest) fun l =>
      ∃ r t l', l = .run r :: .tag t :: l' ∧ r.symbols = Markup.ofText text ∧
        t.closing? = some name ∧ P l' := by
  have hname := isAttributeName_of_isTagName hname
  have hcontent : ∀ c ∈ '/' :: name, c ≠ '<' ∧ c ≠ '>' := by
    rw [List.forall_mem_cons]
    exact ⟨by decide, fun c hc => no_bracket_of_mem_name hname hc⟩
  intro start
  obtain ⟨_, hcuts, r, t, l, rfl, hr, ht, hP⟩ := tag htext hcontent hrest start
  exact ⟨_, hcuts, r, t, l, rfl, hr, Tag.closing?_of_name hname ht, hP⟩

end CutsInto

variable [Alphabet] [NumberFormat]

namespace Rendered

/-- Lexemes that describe an element behind a blank run, with something else behind them. -/
inductive Begins (dialect : Dialect) (e : Rendered) (P : List Lexeme → Prop) : List Lexeme → Prop
  | mk {r : Run} {l rest : List Lexeme} {tree : Tree} :
      r.isBlank = true → IsElement dialect [] l tree → tree.evaluate .empty = .ok e → P rest →
      Begins dialect e P (.run r :: (l ++ rest))

/-- Lexemes that describe children, with something else behind them. -/
inductive BeginsAll (dialect : Dialect) (children : List (Child Rendered Splice))
    (P : List Lexeme → Prop) : List Lexeme → Prop
  | mk {l rest : List Lexeme} {trees : List (Child Tree Slot)} :
      IsChildren dialect [] l trees → Tree.evaluateChildren .empty trees = .ok children → P rest →
      BeginsAll dialect children P (l ++ rest)

mutual
/-- What is written for an element is cut into lexemes that describe it. -/
theorem IsWritable.cutsInto {e : Rendered} {P : List Lexeme → Prop} {rest : Markup} :
    e.IsWritable dialect → CutsInto rest P →
      CutsInto (Markup.ofText (e.write dialect q) ++ rest) (Begins dialect e P)
  | .text hhead hvoid hbody, hrest => by
    intro start
    obtain ⟨_, hcuts, r, t, _, rfl, hr, ho, r', t', l, rfl, hr', hc, hP⟩ :=
      CutsInto.opening (q := q) hhead (.closing hbody.no_bracket hhead.tagName hrest) start
    rw [write, List.append_assoc, Markup.ofText_append, List.append_assoc]
    have hinside : IsContent dialect [] ([] ++ [.run r']) (.text r'.text) :=
      .text .nil (hbody.isBlank_run hr') (Run.list?_eq_none (by simp))
    refine ⟨_, hcuts, ?_⟩
    show Begins dialect _ P (.run r :: ((.tag t :: (([] ++ [.run r']) ++ [.tag t'])) ++ l))
    refine .mk hr (.enclosing ho hvoid hinside hc) ?_ hP
    rw [Tree.evaluate, evaluateHead_ofHead hhead, hbody.resolve_run hr']
    rfl
  | @IsWritable.nodes _ _ head _ hhead hvoid hchildren, hrest => by
    intro start
    cases hd : dialect.isVoid head.tag with
    | true =>
      obtain ⟨_, hcuts, r, t, l, rfl, hr, ho, hP⟩ := CutsInto.opening (q := q) hhead hrest start
      obtain rfl := hvoid hd
      rw [write, if_pos hd]
      refine ⟨_, hcuts, ?_⟩
      show Begins dialect _ P (.run r :: ([.tag t] ++ l))
      refine .mk hr (.complete ho (.inr hd)) ?_ hP
      rw [Tree.evaluate, evaluateHead_ofHead hhead]
      rfl
    | false =>
      have hempty : '<' ∉ ([] : Text) := List.not_mem_nil
      have hclosing := CutsInto.closing hempty hhead.tagName hrest
      obtain ⟨_, hcuts, r, t, _, rfl, hr, ho,
        @⟨inside, _, trees, htrees, hevals, r', t', l, rfl, hr', hc, hP⟩⟩ :=
        CutsInto.opening (q := q) hhead (hchildren.cutsInto hclosing) start
      have hblank : r'.isBlank = true := by
        rw [Run.isBlank, hr']
        rfl
      have hinside : IsContent dialect [] (inside ++ [.run r']) (.nodes trees) := by
        have happend := htrees.append (.blank hblank .nil)
        rw [List.append_nil] at happend
        exact .children happend
      rw [write, if_neg (by simp [hd]), List.append_assoc, Markup.ofText_append,
        Markup.ofText_append, List.append_assoc, List.append_assoc]
      refine ⟨_, hcuts, ?_⟩
      have hl : Lexeme.run r :: .tag t :: (inside ++ .run r' :: .tag t' :: l)
          = .run r :: ((.tag t :: ((inside ++ [.run r']) ++ [.tag t'])) ++ l) := by simp
      rw [hl]
      refine .mk hr (.enclosing ho hd hinside hc) ?_ hP
      rw [Tree.evaluate, evaluateHead_ofHead hhead, hevals]
      rfl

theorem AreWritable.cutsInto {children : List (Child Rendered Splice)} {P : List Lexeme → Prop}
    {rest : Markup} : AreWritable dialect children → CutsInto rest P →
      CutsInto (Markup.ofText (writeAll dialect q children) ++ rest) (BeginsAll dialect children P)
  | .nil, hrest => by
    intro start
    obtain ⟨l, hl, hP⟩ := hrest start
    exact ⟨l, hl, .mk .nil rfl hP⟩
  | .element he hchildren, hrest => by
    intro start
    obtain ⟨_, hcuts, hr, helement, heval, htrees, hevals, hP⟩ :=
      he.cutsInto (hchildren.cutsInto hrest) start
    rw [writeAll, Markup.ofText_append, List.append_assoc]
    refine ⟨_, hcuts, ?_⟩
    rw [← List.append_assoc, ← List.cons_append]
    refine .mk (.blank hr (.element helement htrees)) ?_ hP
    rw [Tree.evaluateChildren, heval, hevals]
    rfl
end

/-- **What is written for an element renders back to it.** -/
theorem IsWritable.render_write {e : Rendered} (h : e.IsWritable dialect) (q : Quoting) :
    ((Engine.new dialect .plain ()).render [e.write dialect q] .empty).1 = .ok e := by
  obtain ⟨_, hcuts, ⟨hr, helement, heval, ⟨r', rfl, hr'⟩⟩⟩ := h.cutsInto (q := q) .nil 0
  rw [List.append_nil] at hcuts
  refine Engine.render_new_eq_ok_iff.mpr ⟨_, _, _, rfl, hcuts, ?_, heval⟩
  exact .mk (.blank hr .nil) helement (.blank hr' .nil)

end Rendered

end MarkupTemplate
