import MarkupTemplate.Json.Writer
import MarkupTemplate.Libraries

/-!
# Lists in running text

    [x, [y, z]] ──inline──▶ x,y,z ◀──inline── [x, y, z]

A list has no brackets in running text, so nothing shows where a list in a list begins and ends. Two
laws say what a list leaves (`appendTo_flatten`): a list among the items of another may be replaced
by its own items, and a list that continues another leaves its text behind that of the other and a
comma. The lists must have items: one without any leaves no text, and yet it is an item, with a
comma of its own.

Values are put behind other text item by item, and that text stays as it is (`appendTo_eq`).
-/

namespace MarkupTemplate.Json

/-! ## Items and commas -/

section

variable [NumberFormat]

/-- What an item leaves that is not the first of its list: a comma stands in front of it. -/
def laterItem (item : Json) : Text := ',' :: inlineItem item

theorem inlineItem_eq (item : Json) :
    inlineItem item = if item.isNull then [] else inline item := by
  cases item <;> rfl

theorem inlineItems_cons (item : Json) (rest : List Json) :
    inlineItems (item :: rest) = inlineItem item ++ rest.flatMap laterItem := by
  induction rest generalizing item with
  | nil => simp [inlineItems]
  | cons next rest ih =>
    rw [inlineItems, ih, List.flatMap_cons, laterItem, List.cons_append]
    exact List.cons_ne_nil _ _

theorem flatMap_laterItem {items : List Json} (h : items ≠ []) :
    items.flatMap laterItem = ',' :: inlineItems items := by
  cases items with
  | nil => exact absurd rfl h
  | cons item rest => rw [List.flatMap_cons, inlineItems_cons, laterItem, List.cons_append]

/-! ## Behind other text -/

-- By recursion on values and lists of values, as they are appended. Of the index it only matters
-- whether it is 0: past it, all the items that are left have a comma.
mutual
/-- **A value is appended, and nothing else changes.** -/
theorem appendTo_eq (before : Text) (value : Json) :
    appendTo before value = before ++ value.inline := by
  match value with
  | null | bool _ | integer _ | float _ | string _ | object _ => rfl
  | array items =>
    rw [appendTo, appendItemsTo_eq before 0 items, if_neg (Nat.lt_irrefl 0), inline]

theorem appendItemsTo_eq (before : Text) (index : Nat) (items : List Json) :
    appendItemsTo before index items
      = before ++ if 0 < index then items.flatMap laterItem else inlineItems items := by
  match items with
  | [] => simp [appendItemsTo, inlineItems]
  | item :: rest =>
    have hitem : ∀ separated : Text,
        (if item.isNull then separated else appendTo separated item)
          = separated ++ inlineItem item := by
      intro separated
      rw [inlineItem_eq, appendTo_eq separated item]
      split
      · rw [List.append_nil]
      · rfl
    rw [appendItemsTo, hitem, appendItemsTo_eq _ (index + 1) rest, if_pos (Nat.succ_pos index)]
    split
    · simp [laterItem]
    · rw [inlineItems_cons, List.append_assoc]
end

/-! ## Lists in a row and lists in lists -/

theorem inlineItems_append {xs ys : List Json} (hxs : xs ≠ []) (hys : ys ≠ []) :
    inlineItems (xs ++ ys) = inlineItems xs ++ ',' :: inlineItems ys := by
  cases xs with
  | nil => exact absurd rfl hxs
  | cons x xs =>
    rw [List.cons_append, inlineItems_cons, inlineItems_cons, List.flatMap_append,
      flatMap_laterItem hys, List.append_assoc]

/-- Items that leave the same text may be exchanged between any others. -/
theorem inlineItems_between {us vs : List Json} (hus : us ≠ []) (hvs : vs ≠ [])
    (h : inlineItems us = inlineItems vs) (xs ys : List Json) :
    inlineItems (xs ++ us ++ ys) = inlineItems (xs ++ vs ++ ys) := by
  have hfront : inlineItems (xs ++ us) = inlineItems (xs ++ vs) := by
    by_cases hxs : xs = []
    · rw [hxs]
      exact h
    · rw [inlineItems_append hxs hus, inlineItems_append hxs hvs, h]
  by_cases hys : ys = []
  · rw [hys, List.append_nil, List.append_nil, hfront]
  · have hxus : xs ++ us ≠ [] := by simp [hus]
    have hxvs : xs ++ vs ≠ [] := by simp [hvs]
    rw [inlineItems_append hxus hys, inlineItems_append hxvs hys, hfront]

/-- **A list leaves what its items leave, however they are gathered in lists.** Whatever text a
value is appended to, that text stays and the value's own text follows. A list with items, among the
items of another, may be replaced by its items. Where one list with items continues another, its
text comes behind the text of the other and a comma. -/
theorem appendTo_flatten (before : Text) (xs ys zs : List Json) :
    (∀ value, appendTo before value = before ++ value.inline) ∧
    (zs ≠ [] → appendTo before (array (xs ++ [array zs] ++ ys))
      = appendTo before (array (xs ++ zs ++ ys))) ∧
    (xs ≠ [] → ys ≠ [] → appendTo before (array (xs ++ ys))
      = before ++ ((array xs).inline ++ ',' :: (array ys).inline)) := by
  refine ⟨appendTo_eq before, fun hzs => ?_, fun hxs hys => ?_⟩
  · have hlist : inlineItems [array zs] = inlineItems zs := rfl
    rw [appendTo_eq, appendTo_eq, inline, inline,
      inlineItems_between (List.cons_ne_nil _ _) hzs hlist xs ys]
  · rw [appendTo_eq, inline, inlineItems_append hxs hys, inline, inline]

end

/-- **Null items and lists without items keep their commas**, in a list and in lists in it. -/
theorem appendTo_flatten_nulls :
    let xs : List Json := [null, string (txt "a")]
    let zs : List Json := [array [], array [null, integer 2], null]
    let ys : List Json := [object [(txt "b", null)]]
    (xs ≠ [] ∧ zs ≠ [] ∧ ys ≠ []) ∧
      appendTo (txt "n=") (array (xs ++ [array zs] ++ ys))
        = appendTo (txt "n=") (array (xs ++ zs ++ ys)) ∧
      appendTo (txt "n=") (array (xs ++ ys))
        = txt "n=" ++ ((array xs).inline ++ ',' :: (array ys).inline) ∧
      appendTo (txt "n=") (array (xs ++ zs ++ ys)) = txt "n=,a,,,2,,\x7b\"b\":null\x7d" := by
  intro xs zs ys
  obtain ⟨-, hflatten, happend⟩ := appendTo_flatten (txt "n=") xs ys zs
  have hxs : xs ≠ [] := List.cons_ne_nil _ _
  have hzs : zs ≠ [] := List.cons_ne_nil _ _
  have hys : ys ≠ [] := List.cons_ne_nil _ _
  exact ⟨⟨hxs, hzs, hys⟩, hflatten hzs, happend hxs hys, by decide⟩

end MarkupTemplate.Json
