import Mathlib.Data.List.Forall2
import MarkupTemplate.Engine
import MarkupTemplate.Proofs.Outcome

/-!
# Evaluating a parsed template directly

A plan is made ahead of the values: its static parts are built once, and the rest waits for the
values. This module says what a plan has to mean. `Tree.evaluate` walks the parsed template itself
and builds nothing beforehand:

    tree ──evaluate b──▶ the element, or the first cause of failure

It resolves the key of an element, then its attributes as they were written, then its content from
left to right, and stops at the first value that is missing or of the wrong shape. The main
statement is `install_ofTree`: what the plain host installs for a tree is the evaluation of that
tree, on every tree, also on those that no markup is read as.
-/

namespace MarkupTemplate

namespace Tree

/-! ## The evaluator -/

variable [NumberFormat]

/-- Resolve named texts from left to right. -/
def evaluateEntries (b : Bindings) : List (Text × Interpolation) → Except Cause (List (Text × Text))
  | [] => .ok []
  | (name, value) :: rest => do
    let text ← value.resolve b
    return (name, text) :: (← evaluateEntries b rest)

/-- Resolve the texts of a head: the key, then the attributes. -/
def evaluateHead (b : Bindings) (head : Head Span Interpolation) :
    Except Cause (Head Unit Text) := do
  let key ← match head.key with
    | none => .ok none
    | some key => (key.resolve b).map some
  let attributes ← evaluateEntries b head.attributes.entries
  return ⟨head.tag, key, .ofList attributes, ()⟩

mutual
/-- The element that a parsed template is for some values: its head is resolved, then its
content. -/
def evaluate (b : Bindings) : Tree → Except Cause Rendered
  | .mk head (.text body) => do
    let head ← evaluateHead b head
    return .mk head (.text (← body.resolve b))
  | .mk head (.nodes children) => do
    let head ← evaluateHead b head
    return .mk head (.nodes (← evaluateChildren b children))

/-- The children of an element for some values, from left to right. -/
def evaluateChildren (b : Bindings) :
    List (Child Tree Slot) → Except Cause (List (Child Rendered Splice))
  | [] => .ok []
  | .element e :: rest => do
    let e ← evaluate b e
    return .element e :: (← evaluateChildren b rest)
  | .splice slot :: rest => do
    let items ← b.readList slot
    return .splice ⟨slot, items⟩ :: (← evaluateChildren b rest)
end

end Tree

/-! ## Static texts -/

namespace Interpolation

/-- A text that reads nothing is a literal. -/
theorem literal?_of_isStatic {i : Interpolation} (h : i.isStatic = true) :
    i.literal? = some i.literalText := by
  induction i with
  | nil => rfl
  | cons p i ih =>
    cases p with
    | literal t =>
      have hi : isStatic i = true := by simpa [isStatic, reads, Piece.slot?] using h
      rw [literalText, literal?, ih hi]
      rfl
    | read slot => simp [isStatic, reads, Piece.slot?] at h

variable [NumberFormat]

/-- A literal resolves to itself, whatever the values. -/
theorem resolve_of_literal? (b : Bindings) {i : Interpolation} {t : Text}
    (h : i.literal? = some t) : i.resolve b = .ok t := by
  induction i generalizing t with
  | nil =>
    obtain rfl : [] = t := by simpa [literal?] using h
    rfl
  | cons p i ih =>
    cases p with
    | literal s =>
      obtain ⟨u, hu, rfl⟩ := Option.map_eq_some_iff.mp h
      rw [resolve, ih hu]
      rfl
    | read slot => cases h

theorem resolve_of_isStatic (b : Bindings) {i : Interpolation} (h : i.isStatic = true) :
    i.resolve b = .ok i.literalText :=
  resolve_of_literal? b (literal?_of_isStatic h)

end Interpolation

/-! ## Static elements -/

variable [NumberFormat]

namespace Tree

theorem evaluateEntries_of_isStatic (b : Bindings) {l : List (Text × Interpolation)}
    (h : ∀ e ∈ l, e.2.isStatic = true) :
    evaluateEntries b l = .ok (l.map fun e => (e.1, e.2.literalText)) := by
  induction l with
  | nil => rfl
  | cons e l ih =>
    obtain ⟨name, value⟩ := e
    rw [evaluateEntries, Interpolation.resolve_of_isStatic b (h _ List.mem_cons_self),
      ih fun e he => h e (List.mem_cons_of_mem _ he)]
    rfl

/-- The head of a static element is the one that is built without values. -/
theorem evaluateHead_of_isStatic (b : Bindings) {head : Head Span Interpolation}
    (h : headIsStatic head = true) : evaluateHead b head = .ok (prebuiltHead head) := by
  obtain ⟨hkey, hvalues⟩ := Bool.and_eq_true_iff.mp h
  have hentries := evaluateEntries_of_isStatic b (l := head.attributes.entries) fun e he =>
    List.all_eq_true.mp hvalues e.2 (List.mem_map_of_mem he)
  have hattributes : Attributes.ofList (head.attributes.entries.map fun e => (e.1, e.2.literalText))
      = head.attributes.map Interpolation.literalText := by
    apply Attributes.ext
    exact Attributes.entries_ofList (head.attributes.map Interpolation.literalText).nodup
  obtain ⟨tag, key, attributes, origin⟩ := head
  cases key with
  | none =>
    simp only [evaluateHead, hentries, prebuiltHead, ← hattributes]
    rfl
  | some key =>
    have hread := Interpolation.resolve_of_isStatic b (i := key) (by simpa using hkey)
    have hliteral := Interpolation.literal?_of_isStatic (i := key) (by simpa using hkey)
    simp only [evaluateHead, hread, hentries, prebuiltHead, ← hattributes, Option.bind_some,
      hliteral]
    rfl

mutual
/-- A static element is the same for all values: the one that is built without any. -/
theorem evaluate_of_isStatic (b : Bindings) :
    ∀ tree : Tree, tree.isStatic = true → tree.evaluate b = .ok tree.prebuilt
  | .mk head (.text body), h => by
    obtain ⟨hhead, hbody⟩ := Bool.and_eq_true_iff.mp h
    rw [evaluate, evaluateHead_of_isStatic b hhead, Interpolation.resolve_of_isStatic b hbody]
    rfl
  | .mk head (.nodes children), h => by
    obtain ⟨hhead, hchildren⟩ := Bool.and_eq_true_iff.mp h
    rw [evaluate, evaluateHead_of_isStatic b hhead,
      evaluateChildren_of_allStatic b children hchildren]
    rfl

theorem evaluateChildren_of_allStatic (b : Bindings) :
    ∀ children : List (Child Tree Slot), allStatic children = true →
      evaluateChildren b children = .ok (prebuiltChildren children)
  | [], _ => rfl
  | .element e :: rest, h => by
    obtain ⟨he, hrest⟩ := Bool.and_eq_true_iff.mp h
    rw [evaluateChildren, evaluate_of_isStatic b e he, evaluateChildren_of_allStatic b rest hrest]
    rfl
  | .splice slot :: rest, h => by simp [allStatic] at h
end

end Tree

/-! ## Heads without a key -/

namespace Tree

variable {b : Bindings} {head : Head Span Interpolation} {head' : Head Unit Text}

/-- Named texts are evaluated one by one. -/
theorem forall₂_of_evaluateEntries {l : List (Text × Interpolation)} {l' : List (Text × Text)}
    (h : evaluateEntries b l = .ok l') :
    List.Forall₂ (fun e e' => e'.1 = e.1 ∧ e.2.resolve b = .ok e'.2) l l' := by
  induction l generalizing l' with
  | nil =>
    cases h
    exact .nil
  | cons e l ih =>
    obtain ⟨name, value⟩ := e
    obtain ⟨text, htext, h⟩ := bind_eq_ok.mp h
    obtain ⟨rest, hrest, h⟩ := bind_eq_ok.mp h
    cases h
    exact .cons ⟨rfl, htext⟩ (ih hrest)

theorem map_fst_evaluateEntries {l : List (Text × Interpolation)} {l' : List (Text × Text)}
    (h : evaluateEntries b l = .ok l') : l'.map Prod.fst = l.map Prod.fst := by
  have hall := forall₂_of_evaluateEntries h
  clear h
  induction hall with
  | nil => rfl
  | cons he _ ih => rw [List.map_cons, List.map_cons, he.1, ih]

/-- What a head without a key is evaluated to. -/
theorem evaluateHead_eq_ok_iff (hkey : head.key = none) :
    evaluateHead b head = .ok head' ↔ head'.tag = head.tag ∧ head'.key = none ∧
      evaluateEntries b head.attributes.entries = .ok head'.attributes.entries := by
  obtain ⟨tag, key, attributes, origin⟩ := head
  obtain rfl : key = none := hkey
  have heval : evaluateHead b ⟨tag, none, attributes, origin⟩ =
      (evaluateEntries b attributes.entries).map fun entries =>
        ⟨tag, none, .ofList entries, ()⟩ := by
    simp only [evaluateHead]
    cases evaluateEntries b attributes.entries <;> rfl
  rw [heval, map_eq_ok]
  constructor
  · rintro ⟨entries, hentries, rfl⟩
    refine ⟨rfl, rfl, ?_⟩
    -- No name stands twice, so the attributes keep their order.
    rw [hentries, Attributes.entries_ofList_of_names (map_fst_evaluateEntries hentries)]
  · obtain ⟨tag', key', attributes', origin'⟩ := head'
    rintro ⟨rfl, rfl, hentries⟩
    have hlist : Attributes.ofList attributes'.entries = attributes' :=
      Attributes.ext (Attributes.entries_ofList attributes'.nodup)
    exact ⟨_, hentries, by rw [hlist]⟩

/-- A key is evaluated to a key. -/
theorem key_eq_none_of_evaluateHead (h : evaluateHead b head = .ok head')
    (hkey : head'.key = none) : head.key = none := by
  obtain ⟨tag, key, attributes, origin⟩ := head
  cases key with
  | none => rfl
  | some key =>
    have h : (key.resolve b).map some >>= (fun key => evaluateEntries b attributes.entries >>=
        fun entries => .ok ⟨tag, key, .ofList entries, ()⟩) = .ok head' := h
    obtain ⟨key', hkey', h⟩ := bind_eq_ok.mp h
    obtain ⟨text, -, rfl⟩ := map_eq_ok.mp hkey'
    obtain ⟨entries, -, h⟩ := bind_eq_ok.mp h
    cases h
    cases hkey

end Tree

/-! ## Plans -/

namespace Plan

theorem traverseEntries_resolve (b : Bindings) (l : List (Text × Interpolation)) :
    Element.traverseEntries (Interpolation.resolve b) l
      = (Tree.evaluateEntries b l).map Attributes.ofList := by
  have hmap : l.mapM (fun entry => do return (entry.1, ← Interpolation.resolve b entry.2))
      = Tree.evaluateEntries b l := by
    induction l with
    | nil => rfl
    | cons e l ih =>
      obtain ⟨name, value⟩ := e
      rw [List.mapM_cons, ih, Tree.evaluateEntries]
      simp only [bind_assoc, pure_bind]
  rw [Element.traverseEntries, hmap]
  cases Tree.evaluateEntries b l <;> rfl

/-- A plan resolves the parts of a head in the same order as the evaluator. -/
theorem run_ofHead {α : Type} (b : Bindings) (head : Head Span Interpolation)
    (f : Head Unit Text → Except Cause α) :
    (do let key ← head.key.mapM (Interpolation.resolve b)
        let attributes ←
          Element.traverseEntries (Interpolation.resolve b) head.attributes.entries
        f ⟨head.tag, key, attributes, ()⟩)
      = Tree.evaluateHead b head >>= f := by
  rw [traverseEntries_resolve, Tree.evaluateHead]
  cases head.key with
  | none =>
    cases Tree.evaluateEntries b head.attributes.entries <;> rfl
  | some key =>
    cases hkey : Interpolation.resolve b key with
    | error cause => simp only [Option.mapM_some, hkey]; rfl
    | ok text =>
      simp only [Option.mapM_some, hkey]
      cases Tree.evaluateEntries b head.attributes.entries <;> rfl

mutual
/-- **Making a plan keeps the meaning of a tree.** -/
theorem run_ofTree (b : Bindings) : ∀ tree : Tree, (ofTree tree).run b = tree.evaluate b
  | .mk head (.text body) => by
    rw [ofTree]
    split
    -- A static element is built beforehand, and evaluates to just that for all values.
    · next h => rw [run, Tree.evaluate_of_isStatic b _ h]
    · rw [ofHead, run, Tree.evaluate, ← run_ofHead]
  | .mk head (.nodes children) => by
    rw [ofTree]
    split
    · next h => rw [run, Tree.evaluate_of_isStatic b _ h]
    · rw [ofHead, run, Tree.evaluate, runChildren_ofChildren b children, ← run_ofHead]

theorem runChildren_ofChildren (b : Bindings) :
    ∀ children : List (Child Tree Slot),
      runChildren b (ofChildren children) = Tree.evaluateChildren b children
  | [] => rfl
  | .element e :: rest => by
    rw [ofChildren, runChildren, Tree.evaluateChildren, run_ofTree b e,
      runChildren_ofChildren b rest]
  | .splice slot :: rest => by
    rw [ofChildren, runChildren, Tree.evaluateChildren, runChildren_ofChildren b rest]
end

end Plan

/-- **Specialisation keeps the meaning of a template.** Whatever the tree and the key, the plain
host installs a producer, and for all values the producer gives the result of evaluating the tree:
the same element, or a fault of the same first cause. -/
theorem install_ofTree (key : Key) (tree : Tree) :
    ∃ producer, (Host.plain.install (Template.ofTree key tree) ()).1 = .ok producer ∧
      ∀ b : Bindings, producer b = (tree.evaluate b).mapError Fault.ofCause := by
  refine ⟨(Plan.ofTree tree).produce, rfl, ?_⟩
  intro b
  rw [Plan.produce, Plan.run_ofTree]

end MarkupTemplate
