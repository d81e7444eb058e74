import MarkupTemplate.Proofs.Decoding

/-!
# The lines of a source text

    function(props)…    one line, whatever is in the plan
    //# sourceURL=…     one line

A comment ends where its line does, and so the comment that names the key of a template must not
come into the middle of a line, nor may a line end in the middle of a string constant. Texts in a
plan may hold anything. But they are only written as string constants, and those have no character
that ends a line. So all that is written for a plan is one line, and the source text has two.
-/

namespace MarkupTemplate

namespace Source

/-- Whether a character ends a line of source text. -/
def endsLine (c : Char) : Bool := c = '\n' || c = '\r' || c = '\u2028' || c = '\u2029'

/-- Whether a text is all on one line. -/
def IsLine (t : Text) : Prop := ∀ c ∈ t, endsLine c = false

instance (t : Text) : Decidable (IsLine t) :=
  decidable_of_iff (t.all fun c => !endsLine c) (by simp [IsLine])

namespace IsLine

theorem nil : IsLine [] := List.forall_mem_nil _

theorem cons {c : Char} {t : Text} (hc : endsLine c = false) (ht : IsLine t) : IsLine (c :: t) :=
  List.forall_mem_cons.mpr ⟨hc, ht⟩

theorem append {s t : Text} (hs : IsLine s) (ht : IsLine t) : IsLine (s ++ t) :=
  List.forall_mem_append.mpr ⟨hs, ht⟩

end IsLine

/-! ## Strings and sums -/

/-- Every character that ends a line is escaped, without another one that does. -/
theorem isLine_escape (c : Char) : IsLine (escape c) := by
  rw [escape]
  split_ifs with hslash hquote hn hr ht hline hparagraph
  case neg =>
    have hc : endsLine c = false := by simp [endsLine, hn, hr, hline, hparagraph]
    exact .cons hc .nil
  all_goals decide

theorem isLine_stringLiteral (t : Text) : IsLine (stringLiteral t) := by
  refine .cons (by decide) (.append ?_ (by decide))
  intro c hc
  obtain ⟨d, -, hd⟩ := List.mem_flatMap.mp hc
  exact isLine_escape d c hd

theorem isLine_ofNat (n : Nat) : IsLine (Text.ofNat n) := by
  intro c hc
  have hdigit := Text.isDigit_of_mem_ofNat hc
  by_contra h
  simp only [endsLine, Bool.not_eq_false, Bool.or_eq_true, decide_eq_true_eq] at h
  rcases h with ((rfl | rfl) | rfl) | rfl <;> cases hdigit

theorem isLine_read (slot : Slot) : IsLine (read slot) :=
  .append (by decide) (.cons (by decide) (isLine_ofNat slot.number))

theorem isLine_piece (p : Piece) : IsLine (piece p) := by
  cases p with
  | literal t => exact isLine_stringLiteral t
  | read slot => exact isLine_read slot

theorem isLine_sum (i : Interpolation) : IsLine (sum i) := by
  fun_induction sum i with
  | case1 => exact .nil
  | case2 p => exact isLine_piece p
  | case3 p i _ ih => exact .append (isLine_piece p) (.cons (by decide) ih)

theorem isLine_text (i : Interpolation) : IsLine (text i) := by
  rw [text_eq_sum]
  exact isLine_sum _

/-! ## Elements -/

theorem isLine_fields {l : List (Text × Text)} (h : ∀ e ∈ l, IsLine e.2) : IsLine (fields l) := by
  fun_induction fields l with
  | case1 => exact .nil
  | case2 name value =>
    have hvalue := h _ List.mem_cons_self
    exact .append (isLine_stringLiteral name) (.cons (by decide) hvalue)
  | case3 name value l _ ih =>
    obtain ⟨hvalue, hl⟩ := List.forall_mem_cons.mp h
    exact .append (isLine_stringLiteral name)
      (.cons (by decide) (.append hvalue (.cons (by decide) (ih hl))))

/-- An object is on one line if the expressions in it are. -/
theorem isLine_object (tag : Text) {key : Option Text} {attributes : List (Text × Text)}
    {content : Text} (hkey : ∀ k ∈ key, IsLine k) (hattributes : ∀ e ∈ attributes, IsLine e.2)
    (hcontent : IsLine content) : IsLine (object tag key attributes content) := by
  have hkey : IsLine (keyField key) := by
    cases key with
    | none => exact .nil
    | some k => exact .append (by decide) (hkey k rfl)
  have h := object_append tag key attributes content []
  rw [List.append_nil] at h
  rw [h]
  refine .append (by decide) (.append (isLine_stringLiteral tag) (.append hkey ?_))
  refine .append (by decide) (.append (isLine_fields hattributes) (.cons (by decide) ?_))
  exact .append (by decide) (.append hcontent (.cons (by decide) .nil))

theorem isLine_array {items : Text} (h : IsLine items) : IsLine (array items) :=
  .cons (by decide) (.append h (by decide))

theorem isLine_splice (slot : Slot) : IsLine (splice slot) :=
  .append (.append (by decide) (isLine_read slot)) (by decide)

/-- The texts of a head, if each is written on one line. -/
theorem isLine_headObject {α : Type} {write : α → Text} (hwrite : ∀ a, IsLine (write a))
    (tag : Text) (key : Option α) (attributes : List (Text × α)) {content : Text}
    (hcontent : IsLine content) :
    IsLine (object tag (key.map write) (attributes.map fun e => (e.1, write e.2)) content) := by
  refine isLine_object tag (fun k hk => ?_) (fun e he => ?_) hcontent
  · obtain ⟨a, -, rfl⟩ := Option.map_eq_some_iff.mp hk
    exact hwrite a
  · obtain ⟨a, -, rfl⟩ := List.mem_map.mp he
    exact hwrite a.2

mutual
theorem isLine_rendered : ∀ e : Rendered, IsLine (rendered e)
  | .mk head (.text body) => by
    rw [rendered]
    exact isLine_headObject isLine_stringLiteral _ _ _ (isLine_stringLiteral body)
  | .mk head (.nodes children) => by
    rw [rendered]
    exact isLine_headObject isLine_stringLiteral _ _ _
      (isLine_array (isLine_renderedChildren children))

theorem isLine_renderedChildren :
    ∀ children : List (Child Rendered Splice), IsLine (renderedChildren children)
  | [] => .nil
  | [.element e] => isLine_rendered e
  | [.splice _] => .nil
  | .element e :: c :: rest =>
    .append (isLine_rendered e) (.cons (by decide) (isLine_renderedChildren (c :: rest)))
  | .splice _ :: c :: rest => .cons (by decide) (isLine_renderedChildren (c :: rest))
end

mutual
/-- **A plan is written on one line**, whatever texts are in it. -/
theorem isLine_plan : ∀ p : Plan, IsLine (plan p)
  | .static e => isLine_rendered e
  | .dynamic tag key attributes (.text body) =>
    isLine_headObject isLine_text tag key attributes (isLine_text body)
  | .dynamic tag key attributes (.nodes children) =>
    isLine_headObject isLine_text tag key attributes (isLine_array (isLine_planChildren children))

theorem isLine_planChildren :
    ∀ children : List (Child Plan Slot), IsLine (planChildren children)
  | [] => .nil
  | [.element p] => isLine_plan p
  | [.splice slot] => isLine_splice slot
  | .element p :: c :: rest =>
    .append (isLine_plan p) (.cons (by decide) (isLine_planChildren (c :: rest)))
  | .splice slot :: c :: rest =>
    .append (isLine_splice slot) (.cons (by decide) (isLine_planChildren (c :: rest)))
end

end Source

/-! ## Source texts -/

open Source

theorem Key.isLine_text (key : Key) : IsLine key.text := by
  cases key with
  | empty => exact .nil
  | hash value =>
    rw [text, Text.ofInt]
    split
    · exact .cons (by decide) (isLine_ofNat _)
    · exact isLine_ofNat _

/-- **String constants keep to their line, and so does source text to its two.** A string constant
is read back, whatever stands behind it, and leaves just that. No character in it ends a line. In
the source text of a template only one character does, for any tree and any key: the line feed in
front of the comment that names the key. -/
theorem Template.lines_source :
    (∀ t rest, readString (stringLiteral t ++ rest) = some (t, rest)) ∧
      (∀ t, IsLine (stringLiteral t)) ∧
      ∀ (key : Key) (tree : Tree), ∃ line,
        (ofTree key tree).source = line ++ '\n' :: (txt "//# sourceURL=" ++ key.text) ∧
          IsLine line ∧ IsLine (txt "//# sourceURL=" ++ key.text) := by
  refine ⟨readString_append, isLine_stringLiteral, fun key tree => ?_⟩
  have hplan := isLine_plan (Plan.ofTree tree)
  refine ⟨txt "function(props)\x7b\"use strict\";return " ++ Source.plan (Plan.ofTree tree)
    ++ ['\x7d'], ?_, ?_, ?_⟩
  · exact List.append_assoc _ _ _
  · exact .append (.append (by decide) hplan) (by decide)
  · exact .append (by decide) key.isLine_text

end MarkupTemplate
