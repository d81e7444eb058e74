import MarkupTemplate.Libraries
import MarkupTemplate.Proofs.Explicit
import MarkupTemplate.Proofs.WellFormed

/-!
# Unfolded plans

    tree ──ofTree────▶ plan, with its static elements rendered ──source──▶ text
      └────unfolded──▶ plan, with nothing rendered             ──source──▶ the same text

A plan may leave all the work to the render: it then says of every element how to resolve its texts
as they stand in the tree, be the element static or not. For the tree of a template this plan has
the same source as the usual one. It would not for any tree. A static text that is cut in two is
written as a sum of two strings if it is still to be resolved, and as one string if it is rendered.
The parser makes no such text, since it leaves no piece to spare.
-/

namespace MarkupTemplate

variable {dialect : Dialect} {shapes : List Shape}

/-! ## The plan -/

namespace Plan

mutual
/-- The plan in which no element is rendered beforehand. -/
def unfolded : Tree → Plan
  | .mk head (.text body) => ofHead head (.text body)
  | .mk head (.nodes children) => ofHead head (.nodes (unfoldedChildren children))

def unfoldedChildren : List (Child Tree Slot) → List (Child Plan Slot)
  | [] => []
  | .element e :: rest => .element (unfolded e) :: unfoldedChildren rest
  | .splice slot :: rest => .splice slot :: unfoldedChildren rest
end

end Plan

/-! ## Texts without a piece to spare -/

namespace Interpolation

/-- A static text without a piece to spare is one literal, or nothing. -/
theorem IsCanonical.ofText_literalText {i : Interpolation} (h : i.IsCanonical)
    (hstatic : i.isStatic = true) : ofText i.literalText = i := by
  obtain ⟨hapart, hne⟩ := h
  cases hapart with
  | nil => rfl
  | literal t =>
    have ht : t ≠ [] := by simpa [Piece.isEmpty] using hne _ List.mem_cons_self
    have hliteral : literalText [.literal t] = t := by simp [literalText, literal?]
    rw [hliteral, ofText, if_neg ht]
  | read s _ => cases hstatic
  | literal_read t s _ => cases hstatic

end Interpolation

namespace Tree

/-- Whether no text of an element, apart from what is in it, has a piece to spare. -/
structure IsCanonical (e : Tree) : Prop where
  key : ∀ key, e.head.key = some key → key.IsCanonical
  attributes : ∀ entry ∈ e.head.attributes.entries, entry.2.IsCanonical
  body : ∀ body, e.content = .text body → body.IsCanonical

/-- The parser leaves no piece to spare. -/
theorem isCanonical_of_ofMarkup [Alphabet] {m : Markup} {tree : Tree}
    (h : ofMarkup dialect shapes m = .ok tree) : ∀ e ∈ tree.subtrees, e.IsCanonical := by
  obtain ⟨l, -, hdocument⟩ := ofMarkup_eq_ok h
  cases hdocument with
  | mk _ helement _ =>
    refine helement.forall_subtrees fun {t opening closed inside content} ho _ hcontent => ?_
    obtain ⟨settings, hsettings, -⟩ := (OpeningTag.read_eq_ok_iff.mp ho.2).exists_settings
    have hvalues : ∀ e ∈ opening.values, e.2.IsCanonical := by
      rw [hsettings]
      exact (OpeningTag.setsOut_ofSettings _ settings).canonical
    refine ⟨fun key hkey => ?key, fun entry hentry => ?attributes, fun body hbody => ?body⟩
    case key =>
      have hkey : opening.key = some key := hkey
      refine hvalues (OpeningTag.keyAttribute, key) (List.mem_append_left _ ?_)
      simp [hkey]
    case attributes => exact hvalues entry (List.mem_append_right _ hentry)
    case body =>
      obtain rfl : content = .text body := hbody
      cases hcontent with
      | text _ hr _ => exact (Run.isBody_text hr).canonical

end Tree

/-! ## How it is written -/

namespace Source

/-- Joining the pieces of a static text changes nothing of what is written if there is only one. -/
theorem text_summandsIn {static : Bool} {i : Interpolation} (h : i.IsCanonical)
    (hstatic : static = true → i.isStatic = true) : text (i.summandsIn static) = text i := by
  cases static with
  | false => exact text_summands i
  | true =>
    have hi := h.ofText_literalText (hstatic rfl)
    have htext : text (.ofText i.literalText) = stringLiteral i.literalText := by
      rw [Interpolation.ofText]
      split
      · next hnil => rw [hnil, text]
      · rfl
    rw [hi] at htext
    exact htext.symm

theorem object_summandsIn {static : Bool} {e : Tree} (h : e.IsCanonical)
    (hstatic : static = true → Tree.headIsStatic e.head = true) (content : Text) :
    object e.head.tag ((e.head.key.map (Interpolation.summandsIn static)).map text)
        ((e.head.attributes.entries.map fun e => (e.1, e.2.summandsIn static)).map
          fun e => (e.1, text e.2)) content
      = object e.head.tag (e.head.key.map text)
        (e.head.attributes.entries.map fun e => (e.1, text e.2)) content := by
  refine object_map_text (fun key hkey => ?_) (fun entry hentry => ?_) content
  · exact text_summandsIn (h.key key hkey) fun hs => Tree.isStatic_of_key (hstatic hs) hkey
  · exact text_summandsIn (h.attributes entry hentry) fun hs =>
      Tree.isStatic_of_mem_entries (hstatic hs) hentry

mutual
/-- The explicit plan of a tree is written as the unfolded one. -/
theorem plan_explicit : ∀ tree : Tree, (∀ e ∈ tree.subtrees, e.IsCanonical) →
    plan (Plan.explicit tree) = plan (Plan.unfolded tree)
  | .mk head (.text body), h => by
    have hroot := h _ (List.mem_singleton_self _)
    have hhead : Tree.isStatic (.mk head (.text body)) = true → Tree.headIsStatic head = true :=
      fun hs => (Bool.and_eq_true_iff.mp hs).1
    have hbody : Tree.isStatic (.mk head (.text body)) = true → body.isStatic = true :=
      fun hs => (Bool.and_eq_true_iff.mp hs).2
    rw [Plan.explicit, Plan.explicitHead, plan, text_summandsIn (hroot.body body rfl) hbody]
    exact object_summandsIn hroot hhead _
  | .mk head (.nodes children), h => by
    obtain ⟨hroot, hchildren⟩ := List.forall_mem_cons.mp h
    have hhead : Tree.isStatic (.mk head (.nodes children)) = true →
        Tree.headIsStatic head = true := fun hs => (Bool.and_eq_true_iff.mp hs).1
    rw [Plan.explicit, Plan.explicitHead, plan,
      planChildren_congr (flatMap_explicitChildren children hchildren)]
    exact object_summandsIn hroot hhead _

theorem flatMap_explicitChildren : ∀ children : List (Child Tree Slot),
    (∀ e ∈ Tree.subtreesOf children, e.IsCanonical) →
    ((Plan.explicitChildren children).flatMap fun c => ',' :: child c)
      = (Plan.unfoldedChildren children).flatMap fun c => ',' :: child c
  | [], _ => rfl
  | .element e :: rest, h => by
    obtain ⟨he, hrest⟩ := List.forall_mem_append.mp h
    rw [Plan.explicitChildren, Plan.unfoldedChildren, List.flatMap_cons, List.flatMap_cons,
      flatMap_explicitChildren rest hrest, child, child, plan_explicit e he]
  | .splice slot :: rest, h => by
    rw [Plan.explicitChildren, Plan.unfoldedChildren, List.flatMap_cons, List.flatMap_cons,
      flatMap_explicitChildren rest h]
end

end Source

/-- The source of a plan depends on the expression of the plan and on the key. -/
theorem Plan.source_congr {p p' : Plan} (h : Source.plan p = Source.plan p') (key : Key) :
    p.source key = p'.source key := by
  -- An equation for `source` is slow to find, because of the long texts in it.
  delta source
  rw [h]

namespace Template

/-- **What is rendered beforehand cannot be told from the source.** The source of a template that
was read from markup is the source of the plan in which no element is rendered beforehand, for every
key. -/
theorem source_ofTree [Alphabet] {m : Markup} {tree : Tree}
    (h : Tree.ofMarkup dialect shapes m = .ok tree) (key : Key) :
    (ofTree key tree).source = (Plan.unfolded tree).source key := by
  have hplan : Source.plan (Plan.ofTree tree) = Source.plan (Plan.unfolded tree) :=
    (Source.plan_ofTree tree).trans (Source.plan_explicit tree (Tree.isCanonical_of_ofMarkup h))
  exact Plan.source_congr hplan key

/-- A list whose first item is static and whose second one reads a value. -/
theorem source_ofTree_list :
    let m : Markup := Markup.ofText (txt "<ul class=''><li>a\n</li><li>b ") ++
      [.slot ⟨1, by decide, by decide⟩] ++ Markup.ofText (txt "</li></ul>")
    let list := txt "\x7btag:\"ul\",attrs:\x7b\"class\":\"\"\x7d,children:["
    let first := txt "\x7btag:\"li\",attrs:\x7b\x7d,children:\"a\"\x7d,"
    let second := txt "\x7btag:\"li\",attrs:\x7b\x7d,children:\"b \"+props.$1\x7d]\x7d"
    ∃ tree, Tree.ofMarkup .standard [.scalar] m = .ok tree ∧
      tree.subtrees.map Tree.isStatic = [false, true, false] ∧
      Source.plan (Plan.ofTree tree) = list ++ first ++ second ∧
      (ofTree .empty tree).source = (Plan.unfolded tree).source .empty := by
  intro m list first second
  have hread : (Tree.ofMarkup .standard [.scalar] m).map (fun tree =>
      (tree.subtrees.map Tree.isStatic, Source.plan (Plan.ofTree tree)))
        = .ok ([false, true, false], list ++ first ++ second) := by
    decide +kernel
  obtain ⟨tree, htree, hread⟩ := map_eq_ok.mp hread
  obtain ⟨hstatic, hplan⟩ := Prod.mk.inj hread
  exact ⟨tree, htree, hstatic, hplan, source_ofTree htree .empty⟩

end Template

end MarkupTemplate
