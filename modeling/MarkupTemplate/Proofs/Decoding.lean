import MarkupTemplate.Libraries
import MarkupTemplate.Proofs.Explicit
import MarkupTemplate.Proofs.Identity

/-!
# What a source text determines

    text, and something behind it ──▶ explicit plan, and what is behind

A host that compiles the source text of a template sees nothing of its plan. This module says that
it need not: the text determines what the plan does, `install_eq_of_source_eq`. Every part of a
source text can be told from what follows it. A string constant may hold anything that looks like
source text, but every quote in it is escaped; the number of a slot has no mark at its end, but what
follows it never begins with a digit.

The lemmas called `append_inj` are all of one form: if two things are written with something behind
them, and the wholes are the same text, then the things are the same, and so is what is behind.
-/

namespace MarkupTemplate

namespace Source

/-! ## Strings -/

/-- Read what is left of a string constant behind its opening quote. The result is the text that it
stands for, and what is left behind the closing quote. -/
def readBody : Text → Option (Text × Text)
  | [] => none
  | '"' :: rest => some ([], rest)
  | '\\' :: '\\' :: rest => (readBody rest).map (Prod.map ('\\' :: ·) id)
  | '\\' :: '"' :: rest => (readBody rest).map (Prod.map ('"' :: ·) id)
  | '\\' :: 'n' :: rest => (readBody rest).map (Prod.map ('\n' :: ·) id)
  | '\\' :: 'r' :: rest => (readBody rest).map (Prod.map ('\r' :: ·) id)
  | '\\' :: 't' :: rest => (readBody rest).map (Prod.map ('\t' :: ·) id)
  | '\\' :: 'u' :: '2' :: '0' :: '2' :: '8' :: rest =>
    (readBody rest).map (Prod.map ('\u2028' :: ·) id)
  | '\\' :: 'u' :: '2' :: '0' :: '2' :: '9' :: rest =>
    (readBody rest).map (Prod.map ('\u2029' :: ·) id)
  | '\\' :: _ => none
  | c :: rest => (readBody rest).map (Prod.map (c :: ·) id)

/-- Read a string constant. -/
def readString : Text → Option (Text × Text)
  | '"' :: rest => readBody rest
  | _ => none

theorem readBody_escape (c : Char) (rest : Text) :
    readBody (escape c ++ rest) = (readBody rest).map (Prod.map (c :: ·) id) := by
  rw [escape]
  split_ifs with hslash hquote hn hr ht hline hparagraph
  · rw [hslash]; rfl
  · rw [hquote]; rfl
  · rw [hn]; rfl
  · rw [hr]; rfl
  · rw [ht]; rfl
  · rw [hline]; rfl
  · rw [hparagraph]; rfl
  · -- Every other character stands for itself.
    rw [List.singleton_append, readBody.eq_def]
    split <;> simp_all

/-- A string constant is read back, whatever stands behind it. -/
theorem readString_append (t rest : Text) :
    readString (stringLiteral t ++ rest) = some (t, rest) := by
  show readBody (t.flatMap escape ++ ['"'] ++ rest) = some (t, rest)
  induction t with
  | nil => rfl
  | cons c t ih =>
    rw [List.flatMap_cons, List.append_assoc, List.append_assoc, readBody_escape,
      ← List.append_assoc, ih]
    rfl

theorem stringLiteral_append_inj {t t' r r' : Text}
    (h : stringLiteral t ++ r = stringLiteral t' ++ r') : t = t' ∧ r = r' := by
  have hread := readString_append t r
  rw [h, readString_append] at hread
  obtain ⟨rfl, rfl⟩ := Prod.mk.inj (Option.some.inj hread)
  exact ⟨rfl, rfl⟩

/-! ## Lists -/

/-- A text that does not begin with a character that has a property. -/
def Follows (p : Char → Bool) (r : Text) : Prop := ∀ c ∈ r.head?, p c = false

theorem follows_cons {p : Char → Bool} {c : Char} (h : p c = false) (r : Text) :
    Follows p (c :: r) := by
  intro d hd
  obtain rfl : c = d := Option.some.inj hd
  exact h

/-- Parts with a separator in front of each can be told from what follows, if the parts can and
nothing that follows begins with a separator. What is known of the parts is known up to `f`. -/
theorem flatMap_append_inj {α β : Type} {write : α → Text} {f : α → β} {p : Char → Bool}
    {separator : Char} (hseparator : p separator = false)
    (hwrite : ∀ {a a' r r'}, Follows p r → Follows p r' → write a ++ r = write a' ++ r' →
      f a = f a' ∧ r = r')
    {l l' : List α} {r r' : Text} (hr : Follows p r) (hr' : Follows p r')
    (hhead : r.head? ≠ some separator) (hhead' : r'.head? ≠ some separator)
    (h : (l.flatMap fun a => separator :: write a) ++ r
      = (l'.flatMap fun a => separator :: write a) ++ r') : l.map f = l'.map f ∧ r = r' := by
  have hfollows : ∀ l : List α, ∀ r, Follows p r →
      Follows p ((l.flatMap fun a => separator :: write a) ++ r) := by
    intro l r hr
    cases l with
    | nil => exact hr
    | cons a l => exact follows_cons hseparator _
  induction l generalizing l' with
  | nil =>
    cases l' with
    | nil => exact ⟨rfl, h⟩
    | cons a' l' =>
      rw [show r = _ from h] at hhead
      exact absurd rfl hhead
  | cons a l ih =>
    cases l' with
    | nil =>
      rw [show r' = _ from h.symm] at hhead'
      exact absurd rfl hhead'
    | cons a' l' =>
      rw [List.flatMap_cons, List.flatMap_cons, List.append_assoc, List.append_assoc] at h
      obtain ⟨hfirst, hrest⟩ := hwrite (hfollows l r hr) (hfollows l' r' hr') (List.cons.inj h).2
      obtain ⟨hl, hr⟩ := ih hrest
      exact ⟨by rw [List.map_cons, List.map_cons, hfirst, hl], hr⟩

/-! ## Sums -/

theorem read_append (s : Slot) (r : Text) :
    read s ++ r = txt "props.$" ++ (Text.ofNat s.number ++ r) := by
  show txt "props." ++ sigil :: Text.ofNat s.number ++ r = _
  rw [List.append_assoc]
  rfl

/-- The number of a slot ends where the digits do. -/
theorem read_append_inj {s s' : Slot} {r r' : Text} (hr : Follows Char.isDigit r)
    (hr' : Follows Char.isDigit r') (h : read s ++ r = read s' ++ r') : s = s' ∧ r = r' := by
  rw [read_append, read_append] at h
  obtain ⟨hs, hr⟩ := append_inj_of_head? (fun c hc => Text.isDigit_of_mem_ofNat hc)
    (fun c hc => Text.isDigit_of_mem_ofNat hc) hr hr' (List.append_cancel_left h)
  exact ⟨Slot.ext (Text.ofNat_injective hs), hr⟩

theorem piece_append_inj {p p' : Piece} {r r' : Text} (hr : Follows Char.isDigit r)
    (hr' : Follows Char.isDigit r') (h : piece p ++ r = piece p' ++ r') : p = p' ∧ r = r' := by
  cases p with
  | literal t =>
    cases p' with
    | literal t' =>
      obtain ⟨rfl, hrest⟩ := stringLiteral_append_inj h
      exact ⟨rfl, hrest⟩
    | read s' => cases h
  | read s =>
    cases p' with
    | literal t' => cases h
    | read s' =>
      obtain ⟨rfl, hrest⟩ := read_append_inj hr hr' h
      exact ⟨rfl, hrest⟩

theorem cons_sum {i : Interpolation} (h : i ≠ []) :
    '+' :: sum i = i.flatMap fun p => '+' :: piece p := by
  induction i with
  | nil => exact absurd rfl h
  | cons p i ih =>
    cases i with
    | nil => simp [sum]
    | cons q i =>
      rw [List.flatMap_cons, ← ih (List.cons_ne_nil q i), sum]
      · rfl
      · intro h
        cases h

theorem text_eq_sum (i : Interpolation) : text i = sum i.summands := by
  cases i with
  | nil => rfl
  | cons p i => cases p <;> rfl

/-- What may not follow a sum: a digit, or one more summand. -/
def continuesSum (c : Char) : Bool := c.isDigit || c = '+'

theorem text_append_inj {i i' : Interpolation} {r r' : Text} (hr : Follows continuesSum r)
    (hr' : Follows continuesSum r') (h : text i ++ r = text i' ++ r') :
    i.summands = i'.summands ∧ r = r' := by
  have hdigit : ∀ {r}, Follows continuesSum r → Follows Char.isDigit r := by
    intro r hr c hc
    exact (Bool.or_eq_false_iff.mp (hr c hc)).1
  have hplus : ∀ {r}, Follows continuesSum r → r.head? ≠ some '+' := by
    intro r hr hhead
    cases hr '+' hhead
  rw [text_eq_sum, text_eq_sum] at h
  have hsum := congrArg ('+' :: ·) h
  rw [← List.cons_append, ← List.cons_append, cons_sum i.summands_ne_nil,
    cons_sum i'.summands_ne_nil] at hsum
  have := flatMap_append_inj (f := id) (by decide) piece_append_inj (hdigit hr) (hdigit hr')
    (hplus hr) (hplus hr') hsum
  simpa using this

/-! ## Elements -/

theorem cons_fields {l : List (Text × Text)} (h : l ≠ []) :
    ',' :: fields l = l.flatMap fun e => ',' :: (stringLiteral e.1 ++ ':' :: e.2) := by
  induction l with
  | nil => exact absurd rfl h
  | cons e l ih =>
    cases l with
    | nil => simp [fields]
    | cons d l =>
      rw [List.flatMap_cons, ← ih (List.cons_ne_nil d l), fields]
      · simp
      · intro h
        cases h

theorem field_append_inj {e e' : Text × Interpolation} {r r' : Text}
    (hr : Follows continuesSum r) (hr' : Follows continuesSum r')
    (h : stringLiteral e.1 ++ ':' :: text e.2 ++ r = stringLiteral e'.1 ++ ':' :: text e'.2 ++ r') :
    (e.1, e.2.summands) = (e'.1, e'.2.summands) ∧ r = r' := by
  rw [List.append_assoc, List.append_assoc] at h
  obtain ⟨hname, hvalue⟩ := stringLiteral_append_inj h
  obtain ⟨hvalue, hrest⟩ := text_append_inj hr hr' (List.cons.inj hvalue).2
  exact ⟨Prod.ext hname hvalue, hrest⟩

/-- The fields of an object end at its closing brace. -/
theorem fields_append_inj {l l' : List (Text × Interpolation)} {r r' : Text}
    (h : fields (l.map fun e => (e.1, text e.2)) ++ '\x7d' :: r
      = fields (l'.map fun e => (e.1, text e.2)) ++ '\x7d' :: r') :
    l.map (fun e => (e.1, e.2.summands)) = l'.map (fun e => (e.1, e.2.summands)) ∧ r = r' := by
  cases l with
  | nil =>
    cases l' with
    | nil => exact ⟨rfl, (List.cons.inj h).2⟩
    | cons e' l' => cases l' <;> cases h
  | cons e l =>
    cases l' with
    | nil => cases l <;> cases h
    | cons e' l' =>
      have hcomma := congrArg (',' :: ·) h
      rw [← List.cons_append, ← List.cons_append, cons_fields (by simp), cons_fields (by simp),
        List.flatMap_map, List.flatMap_map] at hcomma
      obtain ⟨hfields, hrest⟩ := flatMap_append_inj (by decide) field_append_inj
        (follows_cons (by decide) r) (follows_cons (by decide) r') (by simp) (by simp) hcomma
      exact ⟨hfields, (List.cons.inj hrest).2⟩

/-- What stands between the tag and the attributes of an object. -/
def keyField : Option Text → Text
  | some key => txt ",key:" ++ key
  | none => []

theorem object_append (tag : Text) (key : Option Text) (attributes : List (Text × Text))
    (content r : Text) : object tag key attributes content ++ r
      = txt "\x7btag:" ++ (stringLiteral tag ++ (keyField key ++ (txt ",attrs:\x7b" ++
        (fields attributes ++ '\x7d' :: (txt ",children:" ++ (content ++ '\x7d' :: r)))))) := by
  show txt "\x7btag:" ++ stringLiteral tag ++ keyField key ++ txt ",attrs:\x7b" ++ fields attributes
    ++ txt "\x7d,children:" ++ content ++ ['\x7d'] ++ r = _
  simp only [List.append_assoc]
  rfl

theorem splice_append (s : Slot) (r : Text) :
    splice s ++ r = txt "\x7bchildren:" ++ (read s ++ '\x7d' :: r) := by
  show txt "\x7bchildren:" ++ read s ++ ['\x7d'] ++ r = _
  rw [List.append_assoc, List.append_assoc]
  rfl

theorem keyField_append_inj {key key' : Option Interpolation} {r r' : Text}
    (h : keyField (key.map text) ++ (txt ",attrs:\x7b" ++ r)
      = keyField (key'.map text) ++ (txt ",attrs:\x7b" ++ r')) :
    key.map Interpolation.summands = key'.map Interpolation.summands ∧ r = r' := by
  have hfollows : ∀ r : Text, Follows continuesSum (txt ",attrs:\x7b" ++ r) :=
    fun r => follows_cons (by decide) _
  cases key with
  | none =>
    cases key' with
    | none => exact ⟨rfl, List.append_cancel_left h⟩
    | some key' => cases h
  | some key =>
    cases key' with
    | none => cases h
    | some key' =>
      have hfields : txt ",key:" ++ text key ++ (txt ",attrs:\x7b" ++ r)
          = txt ",key:" ++ text key' ++ (txt ",attrs:\x7b" ++ r') := h
      rw [List.append_assoc, List.append_assoc] at hfields
      obtain ⟨hkey, hrest⟩ :=
        text_append_inj (hfollows r) (hfollows r') (List.append_cancel_left hfields)
      exact ⟨congrArg some hkey, List.append_cancel_left hrest⟩

/-- An object shows all its parts but the content, and what is left begins with the content. -/
theorem object_append_inj {tag tag' : Text} {key key' : Option Interpolation}
    {attributes attributes' : List (Text × Interpolation)} {content content' r r' : Text}
    (h : object tag (key.map text) (attributes.map fun e => (e.1, text e.2)) content ++ r
      = object tag' (key'.map text) (attributes'.map fun e => (e.1, text e.2)) content' ++ r') :
    tag = tag' ∧ key.map Interpolation.summands = key'.map Interpolation.summands ∧
      attributes.map (fun e => (e.1, e.2.summands))
        = attributes'.map (fun e => (e.1, e.2.summands)) ∧
      content ++ '\x7d' :: r = content' ++ '\x7d' :: r' := by
  rw [object_append, object_append] at h
  obtain ⟨htag, h⟩ := stringLiteral_append_inj (List.append_cancel_left h)
  obtain ⟨hkey, h⟩ := keyField_append_inj h
  obtain ⟨hattributes, h⟩ := fields_append_inj h
  exact ⟨htag, hkey, hattributes, List.append_cancel_left h⟩

theorem splice_append_inj {s s' : Slot} {r r' : Text} (h : splice s ++ r = splice s' ++ r') :
    s = s' ∧ r = r' := by
  rw [splice_append, splice_append] at h
  obtain ⟨hs, hrest⟩ := read_append_inj (follows_cons (by decide) r) (follows_cons (by decide) r')
    (List.append_cancel_left h)
  exact ⟨hs, (List.cons.inj hrest).2⟩

/-! ## Plans -/

/-- What is written of the content of an element. -/
def content : Content Interpolation (Child Plan Slot) → Text
  | .text body => text body
  | .nodes children => array (planChildren children)

theorem plan_explicitHead (static : Bool) (head : Head Span Interpolation)
    (c : Content Interpolation (Child Plan Slot)) :
    plan (Plan.explicitHead static head c)
      = object head.tag ((head.key.map (Interpolation.summandsIn static)).map text)
        ((head.attributes.entries.map fun e => (e.1, e.2.summandsIn static)).map
          fun e => (e.1, text e.2)) (content c) := by
  cases c <;> rfl

/-- An explicit head is determined, and what is left begins with the content. -/
theorem explicitHead_append_inj {static static' : Bool} {head head' : Head Span Interpolation}
    {c c' : Content Interpolation (Child Plan Slot)} {r r' : Text}
    (h : plan (Plan.explicitHead static head c) ++ r
      = plan (Plan.explicitHead static' head' c') ++ r') :
    (∀ d, Plan.explicitHead static head d = Plan.explicitHead static' head' d) ∧
      content c ++ '\x7d' :: r = content c' ++ '\x7d' :: r' := by
  -- The texts of an explicit head are summands already.
  have hkey : ∀ (static : Bool) (key : Option Interpolation),
      (key.map (Interpolation.summandsIn static)).map Interpolation.summands
        = key.map (Interpolation.summandsIn static) := by
    intro static key
    rw [Option.map_map]
    exact congrArg (key.map ·) (funext (Interpolation.summands_summandsIn static))
  have hentries : ∀ (static : Bool) (l : List (Text × Interpolation)),
      (l.map fun e => (e.1, e.2.summandsIn static)).map (fun e => (e.1, e.2.summands))
        = l.map fun e => (e.1, e.2.summandsIn static) := by
    intro static l
    rw [List.map_map]
    apply List.map_congr_left
    intro e _
    exact congrArg (e.1, ·) (Interpolation.summands_summandsIn static e.2)
  rw [plan_explicitHead, plan_explicitHead] at h
  obtain ⟨htag, hkeys, hattributes, hcontent⟩ := object_append_inj h
  rw [hkey, hkey] at hkeys
  rw [hentries, hentries] at hattributes
  refine ⟨?_, hcontent⟩
  intro d
  rw [Plan.explicitHead, Plan.explicitHead, htag, hkeys, hattributes]

/-- A text is written in quotes, children in brackets. -/
theorem text_append_ne_array (i : Interpolation) (items r r' : Text) :
    text i ++ r ≠ array items ++ r' := by
  intro h
  cases i with
  | nil => cases h
  | cons p i =>
    cases p with
    | read s => cases h
    | literal t => cases i <;> cases h

/-- An element is told from a splice by the field that comes first. -/
theorem plan_append_ne_splice (tree : Tree) (s : Slot) (r r' : Text) :
    plan (Plan.explicit tree) ++ r ≠ splice s ++ r' := by
  intro h
  obtain ⟨head, _ | _⟩ := tree
  all_goals
    rw [Plan.explicit, plan_explicitHead, object_append, splice_append] at h
    cases h

theorem exists_child (c : Child Plan Slot) : ∃ t, child c = '\x7b' :: t := by
  cases c with
  | splice slot => exact ⟨_, rfl⟩
  | element p =>
    cases p with
    | static e =>
      obtain ⟨head, c⟩ := e
      cases c <;> exact ⟨_, rfl⟩
    | dynamic tag key attributes c => cases c <;> exact ⟨_, rfl⟩

/-- A bracket that is closed at once is not one with a child in it. -/
theorem array_nil_append_ne (c : Child Plan Slot) (l : List (Child Plan Slot)) (r r' : Text) :
    array (planChildren []) ++ r ≠ array (planChildren (c :: l)) ++ r' := by
  intro h
  have hchildren := cons_planChildren (List.cons_ne_nil c l)
  obtain ⟨t, ht⟩ := exists_child c
  rw [List.flatMap_cons, List.cons_append, ht] at hchildren
  rw [array, (List.cons.inj hchildren).2] at h
  cases h

/-- Children in brackets are determined if they are with a comma in front of each. -/
theorem array_append_inj {l l' : List (Child Plan Slot)} {r r' : Text}
    (h : array (planChildren l) ++ r = array (planChildren l') ++ r')
    (hchildren : (l.flatMap fun c => ',' :: child c) ++ ']' :: r
      = (l'.flatMap fun c => ',' :: child c) ++ ']' :: r' → l = l' ∧ r = r') : l = l' ∧ r = r' := by
  cases l with
  | nil =>
    cases l' with
    | nil => exact ⟨rfl, (List.cons.inj (List.cons.inj h).2).2⟩
    | cons c' l' => exact absurd h (array_nil_append_ne c' l' r r')
  | cons c l =>
    cases l' with
    | nil => exact absurd h.symm (array_nil_append_ne c l r' r)
    | cons c' l' =>
      apply hchildren
      rw [← cons_planChildren (List.cons_ne_nil c l), ← cons_planChildren (List.cons_ne_nil c' l')]
      rw [array, array, List.cons_append, List.cons_append, List.append_assoc,
        List.append_assoc] at h
      exact congrArg (',' :: ·) (List.cons.inj h).2

mutual
/-- **The source of an explicit plan determines it**, whatever stands behind it. -/
theorem explicit_append_inj : ∀ (tree tree' : Tree) {r r' : Text},
    plan (Plan.explicit tree) ++ r = plan (Plan.explicit tree') ++ r' →
      Plan.explicit tree = Plan.explicit tree' ∧ r = r'
  | .mk head (.text body), .mk head' (.text body'), r, r', h => by
    rw [Plan.explicit, Plan.explicit] at h ⊢
    obtain ⟨hhead, hcontent⟩ := explicitHead_append_inj h
    obtain ⟨hbody, hrest⟩ := text_append_inj (follows_cons (by decide) r)
      (follows_cons (by decide) r') hcontent
    rw [Interpolation.summands_summandsIn, Interpolation.summands_summandsIn] at hbody
    exact ⟨by rw [hhead, hbody], (List.cons.inj hrest).2⟩
  | .mk head (.text body), .mk head' (.nodes children'), r, r', h => by
    rw [Plan.explicit, Plan.explicit] at h
    exact absurd (explicitHead_append_inj h).2 (text_append_ne_array _ _ _ _)
  | .mk head (.nodes children), .mk head' (.text body'), r, r', h => by
    rw [Plan.explicit, Plan.explicit] at h
    exact absurd (explicitHead_append_inj h).2.symm (text_append_ne_array _ _ _ _)
  | .mk head (.nodes children), .mk head' (.nodes children'), r, r', h => by
    rw [Plan.explicit, Plan.explicit] at h ⊢
    obtain ⟨hhead, hcontent⟩ := explicitHead_append_inj h
    obtain ⟨hchildren, hrest⟩ :=
      array_append_inj hcontent (explicitChildren_append_inj children children')
    exact ⟨by rw [hhead, hchildren], (List.cons.inj hrest).2⟩

theorem explicitChildren_append_inj :
    ∀ (children children' : List (Child Tree Slot)) {r r' : Text},
    ((Plan.explicitChildren children).flatMap fun c => ',' :: child c) ++ ']' :: r
      = ((Plan.explicitChildren children').flatMap fun c => ',' :: child c) ++ ']' :: r' →
      Plan.explicitChildren children = Plan.explicitChildren children' ∧ r = r'
  | [], [], r, r', h => ⟨rfl, (List.cons.inj h).2⟩
  | [], c :: rest, r, r', h => by cases c <;> cases h
  | c :: rest, [], r, r', h => by cases c <;> cases h
  | .element e :: rest, .element e' :: rest', r, r', h => by
    rw [Plan.explicitChildren, Plan.explicitChildren] at h ⊢
    rw [List.flatMap_cons, List.flatMap_cons, List.append_assoc, List.append_assoc] at h
    obtain ⟨he, hrest⟩ := explicit_append_inj e e' (List.cons.inj h).2
    obtain ⟨hchildren, hrest⟩ := explicitChildren_append_inj rest rest' hrest
    exact ⟨by rw [he, hchildren], hrest⟩
  | .splice s :: rest, .splice s' :: rest', r, r', h => by
    rw [Plan.explicitChildren, Plan.explicitChildren] at h ⊢
    rw [List.flatMap_cons, List.flatMap_cons, List.append_assoc, List.append_assoc] at h
    obtain ⟨hs, hrest⟩ := splice_append_inj (List.cons.inj h).2
    obtain ⟨hchildren, hrest⟩ := explicitChildren_append_inj rest rest' hrest
    exact ⟨by rw [hs, hchildren], hrest⟩
  | .element e :: rest, .splice s' :: rest', r, r', h => by
    rw [Plan.explicitChildren, Plan.explicitChildren, List.flatMap_cons, List.flatMap_cons,
      List.append_assoc, List.append_assoc] at h
    exact absurd (List.cons.inj h).2 (plan_append_ne_splice _ _ _ _)
  | .splice s :: rest, .element e' :: rest', r, r', h => by
    rw [Plan.explicitChildren, Plan.explicitChildren, List.flatMap_cons, List.flatMap_cons,
      List.append_assoc, List.append_assoc] at h
    exact absurd (List.cons.inj h).2.symm (plan_append_ne_splice _ _ _ _)
end

end Source

/-- The source of a template, under whatever key, determines its explicit plan. -/
theorem Plan.explicit_eq_of_source_eq {key key' : Key} {tree tree' : Tree}
    (h : (ofTree tree).source key = (ofTree tree').source key') :
    explicit tree = explicit tree' := by
  have hsource : ∀ (key : Key) (tree : Tree), (ofTree tree).source key
      = txt "function(props)\x7b\"use strict\";return " ++ (Source.plan (explicit tree) ++
        '\x7d' :: (txt "\n//# sourceURL=" ++ key.text)) := by
    intro key tree
    show txt "function(props)\x7b\"use strict\";return " ++ Source.plan (ofTree tree) ++ ['\x7d']
      ++ txt "\n//# sourceURL=" ++ key.text = _
    simp only [List.append_assoc, Source.plan_ofTree]
    rfl
  rw [hsource, hsource] at h
  exact (Source.explicit_append_inj tree tree' (List.append_cancel_left h)).1

/-- **The source text of a template determines its program.** If two trees have the same source
text, under whatever keys, then the plain host installs producers for them that give the same result
for all values: the same element, or the same fault. -/
theorem install_eq_of_source_eq [NumberFormat] {key key' : Key} {tree tree' : Tree}
    (h : (Template.ofTree key tree).source = (Template.ofTree key' tree').source) :
    ∃ producer producer',
      (Host.plain.install (Template.ofTree key tree) ()).1 = .ok producer ∧
      (Host.plain.install (Template.ofTree key' tree') ()).1 = .ok producer' ∧
      ∀ b : Bindings, producer b = producer' b := by
  have hexplicit : Plan.explicit tree = Plan.explicit tree' := Plan.explicit_eq_of_source_eq h
  refine ⟨(Plan.ofTree tree).produce, (Plan.ofTree tree').produce, rfl, rfl, ?_⟩
  intro b
  rw [Plan.produce, Plan.produce, Plan.run_ofTree, Plan.run_ofTree, ← Plan.run_explicit,
    ← Plan.run_explicit, hexplicit]

/-- A text with an empty literal in front of a read and one without, in elements from different
places. The content looks like source text. -/
theorem install_eq_of_source_eq_imitation :
    let slot : Slot := ⟨10, by decide, by decide⟩
    let body : Interpolation := [.literal (txt "\"+props.$1\x7d\\"), .read slot]
    let tree : Tree :=
      .mk ⟨txt "p", none, .ofList [(txt "title", [.literal [], .read slot])], ⟨0, 3⟩⟩ (.text body)
    let tree' : Tree :=
      .mk ⟨txt "p", none, .ofList [(txt "title", [.read slot])], ⟨4, 7⟩⟩ (.text body)
    let key := Key.ofText (txt "p")
    (Template.ofTree key tree).source = (Template.ofTree key tree').source ∧
      ∃ producer producer', (Host.plain.install (Template.ofTree key tree) ()).1 = .ok producer ∧
        (Host.plain.install (Template.ofTree key tree') ()).1 = .ok producer' ∧
        ∀ b : Bindings, producer b = producer' b := by
  intro slot body tree tree' key
  have h : (Template.ofTree key tree).source = (Template.ofTree key tree').source := by
    decide +kernel
  exact ⟨h, install_eq_of_source_eq h⟩

end MarkupTemplate
