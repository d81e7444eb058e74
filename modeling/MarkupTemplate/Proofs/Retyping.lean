import MarkupTemplate.Libraries
import MarkupTemplate.Proofs.Conservation
import MarkupTemplate.Proofs.MarkedTrees
import MarkupTemplate.Proofs.RunningText

/-!
# Typed dollar signs

    markup ──retype──▶ markup
      │                  │
    read               read
      ▼                  ▼
     tree  ──retype──▶  tree

A dollar sign that was typed in a template is a character like any other. Put another one in its
place wherever it was typed, one that takes up as much space and means nothing to the reader: then
what is read is the same tree, with that character in the same places of its texts, and with the
same reads. So whatever digits follow a dollar sign, it is none of the reads.

`retype` is this change, on markup, on lexemes and on trees. Each relation of the grammar is
preserved by it, and `IsDocument.retype` puts them together. What that says about a marked text, and
what is known of the number of uses, is `slots_of_ofMarked`: every value is read where its token
stands, once at most, and nothing else is read.
-/

namespace MarkupTemplate

open OpeningTag Markup

/-- Whether a character may stand for a dollar sign: it is one byte long and has no meaning. -/
def IsStandIn (sign : Char) : Prop :=
  sign.utf8Size = 1 ∧ Text.Inert [sign] ∧ sign ≠ '/'

instance (sign : Char) : Decidable (IsStandIn sign) := inferInstanceAs (Decidable (_ ∧ _ ∧ _))

/-! ## Changing dollar signs -/

/-- The character with `sign` for a dollar sign. -/
def retypeChar (sign c : Char) : Char := if c = sigil then sign else c

/-- The text with `sign` for every dollar sign. -/
def Text.retype (sign : Char) (t : Text) : Text := t.map (retypeChar sign)

/-- The symbol with `sign` for a dollar sign. A slot is none. -/
def Symbol.retype (sign : Char) : Symbol → Symbol
  | char c => char (retypeChar sign c)
  | slot s => slot s

def Markup.retype (sign : Char) (m : Markup) : Markup := m.map (Symbol.retype sign)

/-- The text with `sign` for every dollar sign in its literals. -/
def Interpolation.retype (sign : Char) (i : Interpolation) : Interpolation :=
  i.map (Piece.mapLiteral (Text.retype sign))

namespace Tree

def retypeHead (sign : Char) (head : Head Span Interpolation) : Head Span Interpolation where
  tag := head.tag
  key := head.key.map (Interpolation.retype sign)
  attributes := head.attributes.map (Interpolation.retype sign)
  origin := head.origin

mutual
/-- The tree with `sign` for every dollar sign in its texts. -/
def retype (sign : Char) : Tree → Tree
  | .mk head (.text body) => .mk (retypeHead sign head) (.text (body.retype sign))
  | .mk head (.nodes children) =>
    .mk (retypeHead sign head) (.nodes (retypeChildren sign children))

def retypeChildren (sign : Char) : List (Child Tree Slot) → List (Child Tree Slot)
  | [] => []
  | .element e :: rest => .element (retype sign e) :: retypeChildren sign rest
  | .splice slot :: rest => .splice slot :: retypeChildren sign rest
end

def retypeContent (sign : Char) : Content Interpolation (Child Tree Slot) →
    Content Interpolation (Child Tree Slot)
  | .text body => .text (body.retype sign)
  | .nodes children => .nodes (retypeChildren sign children)

theorem retype_mk (sign : Char) (head : Head Span Interpolation)
    (content : Content Interpolation (Child Tree Slot)) :
    retype sign (.mk head content) = .mk (retypeHead sign head) (retypeContent sign content) := by
  cases content <;> rfl

end Tree

variable {sign : Char}

theorem retypeChar_of_ne {c : Char} (h : c ≠ sigil) : retypeChar sign c = c := if_neg h

theorem Text.retype_of_notMem {t : Text} (h : sigil ∉ t) : t.retype sign = t := by
  conv_rhs => rw [← List.map_id t]
  refine List.map_congr_left fun c hc => ?_
  apply retypeChar_of_ne
  rintro rfl
  exact h hc

theorem Text.retype_name [Alphabet] {name : Text} (h : isAttributeName name = true) :
    name.retype sign = name :=
  retype_of_notMem (notMem_name h (by decide))

namespace Markup

@[simp] theorem retype_nil : retype sign [] = [] := rfl

@[simp] theorem retype_cons (x : Symbol) (m : Markup) :
    retype sign (x :: m) = x.retype sign :: retype sign m := rfl

@[simp] theorem retype_append (m n : Markup) :
    retype sign (m ++ n) = retype sign m ++ retype sign n := List.map_append

@[simp] theorem retype_ofText (t : Text) : retype sign (ofText t) = ofText (t.retype sign) := by
  rw [retype, ofText, ofText, Text.retype, List.map_map, List.map_map]
  rfl

theorem retype_name [Alphabet] {name : Text} (h : isAttributeName name = true) :
    retype sign (ofText name) = ofText name := by
  rw [retype_ofText, Text.retype_name h]

theorem retype_of_notMem {m : Markup} (h : .char sigil ∉ m) : m.retype sign = m := by
  conv_rhs => rw [← List.map_id m]
  refine List.map_congr_left fun x hx => ?_
  cases x with
  | slot s => rfl
  | char c =>
    apply congrArg Symbol.char
    apply retypeChar_of_ne
    rintro rfl
    exact h hx

@[simp] theorem slots_retype (m : Markup) : (m.retype sign).slots = m.slots := by
  induction m with
  | nil => rfl
  | cons x m ih => cases x <;> simp [Symbol.retype, ih]

theorem forall_mem_retype {P : Symbol → Prop} {m : Markup} (hP : ∀ x, P x → P (x.retype sign))
    (h : ∀ x ∈ m, P x) : ∀ x ∈ m.retype sign, P x :=
  List.forall_mem_map.mpr fun x hx => hP x (h x hx)

end Markup

/-! ## Properties that do not tell the difference -/

/-- Whether a property of symbols does not tell a dollar sign from what stands for it. -/
def Blind (sign : Char) (p : Symbol → Bool) : Prop := ∀ x, p (x.retype sign) = p x

theorem blind_isCharWith {q : Char → Bool} (hq : q sign = q sigil) :
    Blind sign (·.isCharWith q) := by
  intro x
  cases x with
  | slot s => rfl
  | char c =>
    by_cases hc : c = sigil
    · subst hc
      simpa [Symbol.retype, retypeChar] using hq
    · rw [Symbol.retype, retypeChar_of_ne hc]

namespace Blind

variable {p : Symbol → Bool} (hp : Blind sign p) (m : Markup)

include hp

theorem not : Blind sign (!p ·) := fun x => congrArg (!·) (hp x)

theorem comp_retype : p ∘ Symbol.retype sign = p := funext hp

theorem any_retype : (m.retype sign).any p = m.any p := by
  rw [Markup.retype, List.any_map, hp.comp_retype]

theorem any_getLast?_retype : (m.retype sign).getLast?.any p = m.getLast?.any p := by
  rw [Markup.retype, List.getLast?_map, Option.any_map]
  exact congrArg (Option.any · _) (funext hp)

theorem filter_retype : (m.retype sign).filter p = Markup.retype sign (m.filter p) := by
  rw [Markup.retype, List.filter_map, hp.comp_retype, Markup.retype]

theorem dropWhile_retype : (m.retype sign).dropWhile p = Markup.retype sign (m.dropWhile p) := by
  rw [Markup.retype, List.dropWhile_map, hp.comp_retype, Markup.retype]

theorem dropWhileEnd_retype :
    dropWhileEnd p (m.retype sign) = Markup.retype sign (dropWhileEnd p m) := by
  have hreverse : (m.retype sign).reverse = Markup.retype sign m.reverse := List.map_reverse.symm
  rw [dropWhileEnd_eq_rdropWhile, List.rdropWhile, hreverse, hp.dropWhile_retype]
  exact List.map_reverse.symm

end Blind

theorem Symbol.retype_eq_char_iff {c : Char} (hc : c ≠ sign) (hsigil : c ≠ sigil) (x : Symbol) :
    x.retype sign = .char c ↔ x = .char c := by
  cases x with
  | slot s => simp [retype]
  | char d =>
    by_cases hd : d = sigil
    · subst hd
      simp [retype, retypeChar, hc.symm, hsigil.symm]
    · rw [retype, retypeChar_of_ne hd]

theorem Symbol.retype_of_isBlank {c : Char} (h : isBlank c = true) :
    (char c).retype sign = char c := by
  apply congrArg char
  apply retypeChar_of_ne
  rintro rfl
  cases h

theorem Symbol.retype_of_isQuote {c : Char} (h : Word.isQuote c = true) :
    (char c).retype sign = char c := by
  apply congrArg char
  apply retypeChar_of_ne
  rintro rfl
  cases h

theorem Word.one_retype (symbols : Markup) :
    Word.one (symbols.retype sign) = (Word.one symbols).map (Markup.retype sign) := by
  rw [Word.one, Word.one]
  cases symbols <;> rfl

section StandIn

variable (hsign : IsStandIn sign)

include hsign

namespace IsStandIn

theorem isBlank_eq_false : isBlank sign = false :=
  hsign.2.1.isBlank_eq_false sign List.mem_cons_self

theorem isQuote_eq_false : Word.isQuote sign = false :=
  hsign.2.1.isQuote_eq_false sign List.mem_cons_self

theorem no_bracket : sign ≠ '<' ∧ sign ≠ '>' := hsign.2.1.no_bracket sign List.mem_cons_self

theorem blind_isBlankSymbol : Blind sign isBlankSymbol :=
  blind_isCharWith (hsign.isBlank_eq_false.trans (by decide))

theorem blind_isBlank_or_isQuote :
    Blind sign (·.isCharWith fun c => isBlank c || Word.isQuote c) :=
  blind_isCharWith (by
    rw [hsign.isBlank_eq_false, hsign.isQuote_eq_false]
    decide)

theorem blind_isLineBreak : Blind sign (·.isCharWith Interpolation.isLineBreak) :=
  blind_isCharWith (by
    rw [Interpolation.isLineBreak_eq_false hsign.isBlank_eq_false]
    decide)

end IsStandIn

theorem Symbol.byteLength_retype (x : Symbol) : (x.retype sign).byteLength = x.byteLength := by
  cases x with
  | slot s => rfl
  | char c =>
    by_cases hc : c = sigil
    · subst hc
      have hlength : sign.utf8Size = sigil.utf8Size := hsign.1
      simpa [retype, retypeChar, byteLength, text] using hlength
    · rw [retype, retypeChar_of_ne hc]

namespace Markup

theorem byteLength_retype (m : Markup) : (m.retype sign).byteLength = m.byteLength := by
  induction m with
  | nil => rfl
  | cons x m ih => rw [retype_cons, byteLength_cons, byteLength_cons, ih, x.byteLength_retype hsign]

theorem trimmed_retype (m : Markup) : (m.retype sign).trimmed = m.trimmed.retype sign := by
  have hblank := hsign.blind_isBlankSymbol
  rw [trimmed, hblank.dropWhile_retype, hblank.dropWhileEnd_retype, trimmed]

theorem normalized_retype (m : Markup) :
    (m.retype sign).normalized = m.normalized.retype sign := by
  rw [normalized, normalized, hsign.blind_isLineBreak.not.filter_retype, trimmed_retype hsign]

end Markup

/-! ## Tags -/

theorem isBare_retype {bare : Markup} (h : ∀ x ∈ bare, Word.isBare x = true) :
    ∀ x ∈ bare.retype sign, Word.isBare x = true :=
  Markup.forall_mem_retype (fun x hx => (hsign.blind_isBlank_or_isQuote.not x).trans hx) h

theorem Word.Splits.retype {m : Markup} {words : List Markup} (h : Word.Splits m words) :
    Word.Splits (m.retype sign) (words.map (Markup.retype sign)) := by
  induction h with
  | last hbare =>
    rw [← Word.one_retype]
    exact .last (isBare_retype hsign hbare)
  | blank hbare hc _ ih =>
    rw [Markup.retype_append, Markup.retype_cons, Symbol.retype_of_isBlank hc, List.map_append,
      ← Word.one_retype]
    exact .blank (isBare_retype hsign hbare) hc ih
  | @quoted bare quoted rest quote words hbare hquote hquoted _ ih =>
    have hquoted' : ∀ x ∈ quoted.retype sign, x ≠ .char quote := by
      refine Markup.forall_mem_retype (fun x hx => ?_) hquoted
      rwa [Ne, x.retype_eq_char_iff]
      · rintro rfl
        rw [hsign.isQuote_eq_false] at hquote
        cases hquote
      · rintro rfl
        cases hquote
    rw [Markup.retype_append, Markup.retype_cons, Markup.retype_append, Markup.retype_cons,
      Symbol.retype_of_isQuote hquote, List.map_append, ← Word.one_retype, Markup.retype_append]
    exact .quoted (isBare_retype hsign hbare) hquote hquoted' ih

namespace OpeningTag

theorem splitSlash_retype (m : Markup) :
    splitSlash (m.retype sign) = ((splitSlash m).1.retype sign, (splitSlash m).2) := by
  have hlast : (m.retype sign).getLast? = some (.char '/') ↔ m.getLast? = some (.char '/') := by
    rw [Markup.retype, List.getLast?_map, Option.map_eq_some_iff]
    constructor
    · rintro ⟨x, hx, hslash⟩
      rw [hx, (x.retype_eq_char_iff hsign.2.2.symm (by decide)).mp hslash]
    · intro h
      exact ⟨_, h, (Symbol.retype_eq_char_iff hsign.2.2.symm (by decide) _).mpr rfl⟩
  have hdropLast : (m.retype sign).dropLast = Markup.retype sign m.dropLast :=
    List.map_dropLast.symm
  rw [splitSlash, splitSlash, hdropLast]
  simp only [hlast, hsign.blind_isBlank_or_isQuote.any_getLast?_retype,
    hsign.blind_isBlankSymbol.any_retype, hsign.blind_isBlankSymbol.dropWhileEnd_retype]
  split <;> rfl

end OpeningTag

end StandIn

/-! ## Values -/

namespace Interpolation

theorem cons_retype (x : Symbol) (i : Interpolation) :
    cons (x.retype sign) (i.retype sign) = (cons x i).retype sign := by
  cases x with
  | slot s => rfl
  | char c =>
    cases i with
    | nil => rfl
    | cons p i => cases p <;> rfl

theorem ofMarkup_retype (m : Markup) :
    ofMarkup (m.retype sign) = (ofMarkup m).retype sign := by
  induction m with
  | nil => rfl
  | cons x m ih =>
    show cons (x.retype sign) (ofMarkup (Markup.retype sign m)) = _
    rw [ih, cons_retype]
    rfl

theorem reads_retype (i : Interpolation) : (i.retype sign).reads = i.reads :=
  reads_map_mapLiteral _ i

theorem isStatic_retype (i : Interpolation) : (i.retype sign).isStatic = i.isStatic := by
  rw [isStatic, isStatic, reads_retype]

theorem uses_retype (i : Interpolation) : (i.retype sign).uses = i.uses := by
  rw [uses, uses, reads_retype]

end Interpolation

namespace Tree

theorem headUses_retype (head : Head Span Interpolation) :
    headUses (retypeHead sign head) = headUses head := by
  obtain ⟨tag, key, attributes, origin⟩ := head
  have hentries : entryUses (attributes.map (Interpolation.retype sign)).entries
      = entryUses attributes.entries := by
    simp only [entryUses, Attributes.entries_map, List.flatMap_map, Interpolation.uses_retype]
  rw [headUses, headUses, retypeHead, hentries]
  cases key with
  | none => rfl
  | some key => simp only [Option.map_some, Interpolation.uses_retype]

mutual
/-- A retyped tree uses the same slots in the same way. -/
theorem uses_retype : ∀ tree : Tree, (tree.retype sign).uses = tree.uses
  | .mk head (.text body) => by
    rw [retype, uses, uses, headUses_retype, Interpolation.uses_retype]
  | .mk head (.nodes children) => by
    rw [retype, uses, uses, headUses_retype, usesOf_retype children]

theorem usesOf_retype :
    ∀ children : List (Child Tree Slot), usesOf (retypeChildren sign children) = usesOf children
  | [] => rfl
  | .element e :: rest => by
    rw [retypeChildren, usesOf, usesOf, uses_retype e, usesOf_retype rest]
  | .splice slot :: rest => by rw [retypeChildren, usesOf, usesOf, usesOf_retype rest]
end

end Tree

namespace OpeningTag

/-- The tag with `sign` for every dollar sign in its values. -/
def retype (sign : Char) (tag : OpeningTag) : OpeningTag where
  name := tag.name
  attributes := tag.attributes.map (Interpolation.retype sign)
  key := tag.key.map (Interpolation.retype sign)

/-- An attribute, given by the markup of its value, with `sign` for every dollar sign. -/
def retypeSetting (sign : Char) (setting : Text × Markup) : Text × Markup :=
  (setting.1, setting.2.retype sign)

theorem withSetting_retype (tag : OpeningTag) (setting : Text × Markup) :
    (tag.retype sign).withSetting (retypeSetting sign setting)
      = (tag.withSetting setting).retype sign := by
  simp only [withSetting, withValue, retypeSetting, Interpolation.ofMarkup_retype,
    Interpolation.isStatic_retype]
  split
  · rfl
  · simp only [retype, Attributes.map_insert]

theorem ofSettings_retype (name : Text) (settings : List (Text × Markup)) :
    ofSettings name (settings.map (retypeSetting sign))
      = (ofSettings name settings).retype sign := by
  have hfold : ∀ tag : OpeningTag, (settings.map (retypeSetting sign)).foldl withSetting
      (tag.retype sign) = (settings.foldl withSetting tag).retype sign := by
    induction settings with
    | nil => exact fun _ => rfl
    | cons setting settings ih =>
      intro tag
      rw [List.map_cons, List.foldl_cons, List.foldl_cons, withSetting_retype, ih]
  exact hfold (bare name)

variable [Alphabet]

theorem Says.retype {word : Markup} {setting : Text × Markup} (h : Says word setting) :
    Says (word.retype sign) (retypeSetting sign setting) := by
  cases h with
  | bare hname =>
    rw [Markup.retype_name hname]
    exact .bare hname
  | valued hname =>
    rw [Markup.retype_append, Markup.retype_name hname, Markup.retype_cons]
    exact .valued hname

theorem Reads.retype {words : List Markup} {tag : OpeningTag} (h : Reads words tag) :
    Reads (words.map (Markup.retype sign)) (tag.retype sign) := by
  cases h with
  | mk hname hsays =>
    rw [List.map_cons, Markup.retype_name (isAttributeName_of_isTagName hname),
      ← ofSettings_retype]
    refine .mk hname ?_
    rw [List.forall₂_map_left_iff, List.forall₂_map_right_iff]
    exact hsays.imp fun _ _ h => h.retype

theorem Spells.retype (hsign : IsStandIn sign) {content : Markup} {tag : OpeningTag}
    {closed : Bool} (h : Spells content tag closed) :
    Spells (content.retype sign) (tag.retype sign) closed := by
  have hslash := splitSlash_retype hsign content.trimmed
  rw [← Markup.trimmed_retype hsign] at hslash
  cases h with
  | bare hname hinner =>
    rw [hinner, Markup.retype_name (isAttributeName_of_isTagName hname)] at hslash
    exact .bare hname hslash
  | words hblank hwords hreads hinner =>
    rw [hinner] at hslash
    exact .words (by rwa [hsign.blind_isBlankSymbol.any_retype]) (hwords.retype hsign)
      hreads.retype hslash

end OpeningTag

/-! ## Lexemes -/

namespace Run

def retype (sign : Char) (r : Run) : Run := ⟨r.start, r.symbols.retype sign⟩

theorem list?_retype (shapes : List Shape) (r : Run) :
    (r.retype sign).list? shapes = r.list? shapes := by
  have hslots : (r.retype sign).slots = r.slots := Markup.slots_retype r.symbols
  rw [list?, list?, hslots]

theorem isBlank_retype (hsign : IsStandIn sign) (r : Run) :
    (r.retype sign).isBlank = r.isBlank := by
  rw [isBlank, isBlank, List.all_eq_not_any_not, List.all_eq_not_any_not]
  exact congrArg (!·) (hsign.blind_isBlankSymbol.not.any_retype r.symbols)

theorem text_retype (hsign : IsStandIn sign) (r : Run) :
    (r.retype sign).text = r.text.retype sign := by
  rw [text_eq, text_eq, retype, Markup.normalized_retype hsign, Interpolation.ofMarkup_retype]

end Run

namespace Tag

def retype (sign : Char) (t : Tag) : Tag := ⟨t.start, t.content.retype sign⟩

theorem span_retype (hsign : IsStandIn sign) (t : Tag) : (t.retype sign).span = t.span := by
  rw [span, span, retype, Markup.byteLength_retype hsign]

/-- A closing tag stays as it is if there is no dollar sign in its name. -/
theorem retype_of_closing? {t : Tag} {name : Text} (h : t.closing? = some name)
    (hname : sigil ∉ name) : t.retype sign = t := by
  obtain ⟨m, hm, rfl⟩ := closing?_eq_some_iff.mp h
  have hsigil : Symbol.char sigil ∉ t.content := by
    rw [hm]
    rintro (_ | ⟨_, hmem⟩)
    have htext : sigil ∈ m.text := List.mem_flatMap.mpr ⟨_, hmem, List.mem_cons_self⟩
    exact hname (mem_dropWhileEnd (mem_dropWhile htext rfl) rfl)
  rw [retype, Markup.retype_of_notMem hsigil]

/-- No tag becomes a closing tag. -/
theorem closing?_retype (hsign : IsStandIn sign) {t : Tag} (h : t.closing? = none) :
    (t.retype sign).closing? = none := by
  rw [Option.eq_none_iff_forall_ne_some]
  intro name hname
  obtain ⟨m, hm, -⟩ := closing?_eq_some_iff.mp hname
  cases hcontent : t.content with
  | nil =>
    rw [retype, hcontent] at hm
    cases hm
  | cons x content =>
    rw [retype, hcontent] at hm
    obtain ⟨hslash, -⟩ := List.cons.inj hm
    rw [x.retype_eq_char_iff hsign.2.2.symm (by decide)] at hslash
    rw [closing?_eq_some_iff.mpr ⟨content, hcontent.trans (by rw [hslash]), rfl⟩] at h
    cases h

theorem Opens.retype [Alphabet] (hsign : IsStandIn sign) {t : Tag} {opening : OpeningTag}
    {closed : Bool} (h : t.Opens opening closed) : (t.retype sign).Opens (opening.retype sign) closed := by
  refine ⟨closing?_retype hsign h.1, ?_⟩
  exact OpeningTag.read_eq_ok_iff.mpr ((OpeningTag.read_eq_ok_iff.mp h.2).retype hsign)

end Tag

/-- The lexeme with `sign` for every dollar sign in it. -/
def Lexeme.retype (sign : Char) : Lexeme → Lexeme
  | run r => run (r.retype sign)
  | tag t => tag (t.retype sign)

/-- Markup is cut at the same places. -/
theorem Cuts.retype (hsign : IsStandIn sign) {start : Nat} {m : Markup} {l : List Lexeme}
    (h : Cuts start m l) : Cuts start (m.retype sign) (l.map (Lexeme.retype sign)) := by
  have hopen : ∀ x : Symbol, x ≠ .char '<' → x.retype sign ≠ .char '<' := fun x hx =>
    mt (x.retype_eq_char_iff hsign.no_bracket.1.symm (by decide)).mp hx
  have hclose : ∀ x : Symbol, x ≠ .char '>' → x.retype sign ≠ .char '>' := fun x hx =>
    mt (x.retype_eq_char_iff hsign.no_bracket.2.symm (by decide)).mp hx
  induction h with
  | last htext => exact .last (Markup.forall_mem_retype hopen htext)
  | @tag start text content rest lexemes htext hcontent _ ih =>
    have hbracket : (Symbol.char '<').retype sign = .char '<' ∧
        (Symbol.char '>').retype sign = .char '>' := ⟨rfl, rfl⟩
    simp only [Markup.retype_append, Markup.retype_cons, hbracket, List.map_cons, Lexeme.retype,
      Run.retype, Tag.retype]
    rw [← Markup.byteLength_retype hsign content] at ih
    rw [← Markup.byteLength_retype hsign text] at ih ⊢
    exact .tag (Markup.forall_mem_retype hopen htext)
      (Markup.forall_mem_retype (fun x hx => ⟨hopen x hx.1, hclose x hx.2⟩) hcontent) ih

/-! ## Documents -/

variable {shapes : List Shape}

/-- The closing tag of a void element stays as it is. -/
theorem Tag.retype_of_void {t : Tag} {name : Text} (h : t.closing? = some name)
    (hvoid : Dialect.standard.isVoid name = true) : t.retype sign = t :=
  retype_of_closing? h (Dialect.sigil_notMem_of_isVoid hvoid)

section

variable [Alphabet]

mutual
/-- Retyped lexemes describe the retyped element. -/
theorem IsElement.retype (hsign : IsStandIn sign) {l : List Lexeme} {e : Tree} :
    IsElement .standard shapes l e →
      IsElement .standard shapes (l.map (Lexeme.retype sign)) (e.retype sign)
  | .complete ho hd => by
    have hcomplete := @IsElement.complete .standard shapes _ _ _ _ (ho.retype hsign) hd
    rwa [Tag.span_retype hsign] at hcomplete
  | .enclosing ho hd hcontent hc => by
    have henclosing := IsElement.enclosing (ho.retype hsign) hd (hcontent.retype hsign) hc
    rw [Tag.span_retype hsign] at henclosing
    rw [List.map_cons, List.map_append, List.map_singleton, Lexeme.retype, Lexeme.retype,
      Tag.retype_of_closing? hc ho.sigil_notMem_name, Tree.retype_mk]
    exact henclosing

/-- Retyped lexemes describe the retyped content. -/
theorem IsContent.retype (hsign : IsStandIn sign) {l : List Lexeme}
    {content : Content Interpolation (Child Tree Slot)} :
    IsContent .standard shapes l content →
      IsContent .standard shapes (l.map (Lexeme.retype sign)) (Tree.retypeContent sign content)
  | .children hchildren => .children (hchildren.retype hsign)
  | .text hchildren hr hlist => by
    have htext := IsContent.text (hchildren.retype hsign) ((Run.isBlank_retype hsign _).trans hr)
      ((Run.list?_retype shapes _).trans hlist)
    rw [Run.text_retype hsign] at htext
    rwa [List.map_append]

theorem IsChildren.retype (hsign : IsStandIn sign) {l : List Lexeme}
    {children : List (Child Tree Slot)} :
    IsChildren .standard shapes l children →
      IsChildren .standard shapes (l.map (Lexeme.retype sign)) (Tree.retypeChildren sign children)
  | .nil => .nil
  | .element he hrest => by
    rw [List.map_append]
    exact .element (he.retype hsign) (hrest.retype hsign)
  | .void ht hd hrest => by
    rw [List.map_cons, Lexeme.retype, Tag.retype_of_void ht hd]
    exact .void ht hd (hrest.retype hsign)
  | .blank hr hrest => .blank ((Run.isBlank_retype hsign _).trans hr) (hrest.retype hsign)
  | .splice hs hrest => .splice ((Run.list?_retype shapes _).trans hs) (hrest.retype hsign)
end

end

theorem IsMargin.retype (hsign : IsStandIn sign) {l : List Lexeme} (h : IsMargin .standard l) :
    IsMargin .standard (l.map (Lexeme.retype sign)) := by
  induction h with
  | nil => exact .nil
  | blank hr _ ih => exact .blank ((Run.isBlank_retype hsign _).trans hr) ih
  | void ht hd _ ih =>
    rw [List.map_cons, Lexeme.retype, Tag.retype_of_void ht hd]
    exact .void ht hd ih

/-- **Retyped lexemes describe the retyped document.** -/
theorem IsDocument.retype [Alphabet] (hsign : IsStandIn sign) {l : List Lexeme} {root : Tree}
    (h : IsDocument .standard shapes l root) :
    IsDocument .standard shapes (l.map (Lexeme.retype sign)) (root.retype sign) := by
  cases h with
  | mk hbefore he hafter =>
    rw [List.map_append, List.map_append]
    exact .mk (hbefore.retype hsign) (he.retype hsign) (hafter.retype hsign)

/-! ## Templates -/

theorem Markup.retype_interleave (index : Nat) (fragments : List Text) :
    (interleave index fragments).retype sign
      = interleave index (fragments.map (Text.retype sign)) := by
  fun_induction interleave index fragments with
  | case1 => rfl
  | case2 index fragment => exact retype_ofText fragment
  | case3 index fragment rest hne ih =>
    have hslot : ∀ slot? : Option Slot,
        retype sign (slot?.map Symbol.slot).toList = (slot?.map Symbol.slot).toList := by
      rintro (_ | slot) <;> rfl
    obtain ⟨next, rest, rfl⟩ := List.exists_cons_of_ne_nil hne
    rw [retype_append, retype_append, retype_ofText, ih, hslot]
    rfl

/-- The fragments of a template with another character for the dollar signs that were typed in them
are those of the retyped markup. -/
theorem Markup.assemble_retype {fragments : List Text} {n : Nat} {m : Markup}
    (h : assemble fragments n = .ok m) :
    assemble (fragments.map (Text.retype sign)) n = .ok (m.retype sign) := by
  obtain ⟨hsize, hlength, rfl⟩ := assemble_eq_ok h
  rw [assemble, if_neg (by omega), if_neg (by simpa using hlength), retype_interleave]

/-- **A marked text is read alike** whichever character stands for the dollar signs typed in it. -/
theorem Tree.ofMarked_retype [Alphabet] (hsign : IsStandIn sign) {m : Markup} {tree : Tree}
    (h : ofMarked .standard shapes m.marked = .ok tree) :
    ofMarked .standard shapes (m.retype sign).marked = .ok (tree.retype sign) := by
  rw [ofMarked_marked] at h ⊢
  obtain ⟨l, hl, hdocument⟩ := ofMarkup_eq_ok h
  exact ofMarkup_of_isDocument (hl.retype hsign) (hdocument.retype hsign)

/-- **No value is lost, used twice or made up.** When what was assembled for some values is read as
a tree, every slot has at most one use in it, and a slot that has one is that of a value. The tree
is the one that the lexemes of the markup describe, so a slot is used where it stands. A value has
its use unless its slot is overwritten by a later attribute of the tag that it stands in, or stands
in a run that is a splice of another slot. And whatever dollar signs were typed in the fragments,
none of them becomes a use: with another character in their place the tree has this character where
they were, and the same uses. -/
theorem Tree.slots_of_ofMarked [Alphabet] {fragments : List Text} {b : Bindings} {m : Markup}
    {tree : Tree} (hm : Markup.assemble fragments b.size = .ok m)
    (htree : ofMarked .standard b.shapes m.marked = .ok tree) :
    (∀ slot, tree.slots.count slot ≤ 1) ∧
      (∀ slot ∈ tree.slots, slot.index < b.size) ∧
      (∃ l, Cuts 0 m l ∧ IsDocument .standard b.shapes l tree ∧
        ∀ slot : Slot, slot.index < b.size →
          (tree.slots.count slot = 1 ↔ ∀ x ∈ l, ¬ x.Loses b.shapes slot)) ∧
      ∀ sign, IsStandIn sign → ∃ m',
        Markup.assemble (fragments.map (Text.retype sign)) b.size = .ok m' ∧
          ofMarked .standard b.shapes m'.marked = .ok (tree.retype sign) ∧
          (tree.retype sign).uses = tree.uses := by
  have hmarkup := htree
  rw [ofMarked_marked] at hmarkup
  obtain ⟨hcount, hindex, hlexemes⟩ := count_slots_of_ofMarkup hm hmarkup
  refine ⟨hcount, hindex, hlexemes, fun sign hsign => ?_⟩
  exact ⟨_, Markup.assemble_retype hm, ofMarked_retype hsign htree, uses_retype tree⟩

/-- A paragraph with an attribute that is written twice, with dollar signs that were typed, and with
a label before a list. -/
theorem Tree.slots_of_ofMarked_paragraph :
    let fragments := [txt "<p a=", txt " a=", txt " b=$2><i>$1 or $2</i>", [], txt "</p>"]
    let b : Bindings := ⟨[.null, .null, .null, .array []]⟩
    ∃ m tree, Markup.assemble fragments b.size = .ok m ∧
      ofMarked .standard b.shapes m.marked = .ok tree ∧
      (∀ slot, tree.slots.count slot ≤ 1) ∧
      (∀ slot ∈ tree.slots, slot.index < 4) ∧
      IsStandIn '#' ∧
      ∃ m', Markup.assemble
          [txt "<p a=", txt " a=", txt " b=#2><i>#1 or #2</i>", [], txt "</p>"] 4 = .ok m' ∧
        ofMarked .standard b.shapes m'.marked = .ok (tree.retype '#') := by
  intro fragments b
  have hm : Markup.assemble fragments b.size = .ok (Markup.interleave 0 fragments) := rfl
  have hisOk :
      (ofMarked .standard b.shapes (Markup.interleave 0 fragments).marked).isOk = true := by
    rw [ofMarked_marked]
    decide +kernel
  obtain ⟨tree, htree⟩ := exists_of_isOk hisOk
  have hsign : IsStandIn '#' := by decide
  obtain ⟨hcount, hindex, -, hretype⟩ := slots_of_ofMarked hm htree
  obtain ⟨m', hm', htree', -⟩ := hretype '#' hsign
  exact ⟨_, tree, hm, htree, hcount, hindex, hsign, m', hm', htree'⟩

end MarkupTemplate
