import MarkupTemplate.Libraries
import MarkupTemplate.Proofs.Identity
import MarkupTemplate.Proofs.Rendering
import MarkupTemplate.Proofs.Shapes
import MarkupTemplate.Proofs.Spelling

/-!
# What a tree asks of its values

    markup ──read──▶ tree ──uses──▶ reads and splices ──check b──▶ ok, or the first fault

A parsed template *uses* a slot by reading its value into a text, or by splicing its list in among
the children of an element. `Tree.uses` lists the uses in the order in which evaluation comes to
them, and `Tree.evaluate_checks` says that nothing else can go wrong: evaluation comes out as
checking one use after the other does.

Markup that is read as a tree for values of some shapes has only uses that such values satisfy. So a
template that was compiled once is rendered for all values of these shapes:
`Template.exists_produce`.
-/

namespace MarkupTemplate

/-- A use of a slot in a parsed template. -/
inductive Use where
  /-- Its value is read into a text. -/
  | read (slot : Slot)
  /-- Its list is spliced in among children. -/
  | splice (slot : Slot)
  deriving DecidableEq, Repr

namespace Use

variable {α β : Type} {b : Bindings}

/-- The fault of a use for some values, if there is one. -/
def check (b : Bindings) : Use → Except Cause Unit
  | read slot => (b.read slot).map fun _ => ()
  | splice slot => (b.readList slot).map fun _ => ()

/-- The first fault of some uses. -/
def checkAll (b : Bindings) : List Use → Except Cause Unit
  | [] => .ok ()
  | use :: rest => do
    use.check b
    checkAll b rest

theorem checkAll_append (l m : List Use) :
    checkAll b (l ++ m) = checkAll b l >>= fun _ => checkAll b m := by
  induction l with
  | nil => rfl
  | cons use l ih =>
    rw [List.cons_append, checkAll, checkAll, ih, bind_assoc]

theorem checkAll_eq_ok_iff {l : List Use} :
    checkAll b l = .ok () ↔ ∀ use ∈ l, use.check b = .ok () := by
  induction l with
  | nil => simp [checkAll]
  | cons use l ih =>
    rw [checkAll, bind_eq_ok, List.forall_mem_cons, ← ih]
    constructor
    · rintro ⟨⟨⟩, hcheck, hrest⟩
      exact ⟨hcheck, hrest⟩
    · rintro ⟨hcheck, hrest⟩
      exact ⟨(), hcheck, hrest⟩

/-! ## Steps that fail where a check does -/

/-- Whether a step comes out as checking some uses does. -/
def Checks (b : Bindings) (x : Except Cause α) (uses : List Use) : Prop :=
  x.map (fun _ => ()) = checkAll b uses

namespace Checks

theorem ok (a : α) : Checks b (.ok a : Except Cause α) [] := rfl

theorem bind {x : Except Cause α} {f : α → Except Cause β} {l m : List Use} (hx : Checks b x l)
    (hf : ∀ a, Checks b (f a) m) : Checks b (x >>= f) (l ++ m) := by
  rw [Checks, checkAll_append, ← hx]
  cases x with
  | error cause => rfl
  | ok a => exact hf a

/-- A last step that cannot fail adds nothing to check. -/
theorem map {x : Except Cause α} {f : α → β} {l : List Use} (hx : Checks b x l) :
    Checks b (x >>= fun a => .ok (f a)) l := by
  have := hx.bind fun a => ok (f a)
  rwa [List.append_nil] at this

theorem exists_of_checkAll {x : Except Cause α} {l : List Use} (hx : Checks b x l)
    (h : checkAll b l = .ok ()) : ∃ a, x = .ok a := by
  rw [Checks, h] at hx
  obtain ⟨a, ha, -⟩ := map_eq_ok.mp hx
  exact ⟨a, ha⟩

theorem read (slot : Slot) : Checks b (b.read slot) [.read slot] := by
  rw [Checks, checkAll, check]
  cases b.read slot <;> rfl

theorem readList (slot : Slot) : Checks b (b.readList slot) [.splice slot] := by
  rw [Checks, checkAll, check]
  cases b.readList slot <;> rfl

end Checks

end Use

open Use

/-! ## The uses of a tree -/

/-- The uses of a text. -/
def Interpolation.uses (i : Interpolation) : List Use := i.reads.map .read

namespace Tree

/-- The uses of named texts. -/
def entryUses (entries : List (Text × Interpolation)) : List Use :=
  entries.flatMap fun e => e.2.uses

/-- The uses of a head: those of the key, then those of the attributes. -/
def headUses (head : Head Span Interpolation) : List Use :=
  (head.key.map Interpolation.uses).getD [] ++ entryUses head.attributes.entries

mutual
/-- The uses of an element, in the order in which evaluation comes to them. -/
def uses : Tree → List Use
  | .mk head (.text body) => headUses head ++ body.uses
  | .mk head (.nodes children) => headUses head ++ usesOf children

/-- The uses of children. -/
def usesOf : List (Child Tree Slot) → List Use
  | [] => []
  | .element e :: rest => uses e ++ usesOf rest
  | .splice slot :: rest => .splice slot :: usesOf rest
end

end Tree

/-! ## Evaluation is checking -/

variable {b : Bindings}

theorem Interpolation.resolve_checks [NumberFormat] (i : Interpolation) :
    Checks b (i.resolve b) i.uses := by
  induction i with
  | nil => exact .ok []
  | cons p i ih =>
    cases p with
    | literal t => exact ih.map
    | read slot => exact (Checks.read slot).bind fun value => ih.map

namespace Tree

variable [NumberFormat]

theorem evaluateEntries_checks (l : List (Text × Interpolation)) :
    Checks b (evaluateEntries b l) (entryUses l) := by
  induction l with
  | nil => exact .ok []
  | cons e l ih => exact e.2.resolve_checks.bind fun text => ih.map

theorem evaluateHead_checks (head : Head Span Interpolation) :
    Checks b (evaluateHead b head) (headUses head) := by
  obtain ⟨tag, key, attributes, origin⟩ := head
  have hattributes := @evaluateEntries_checks b _ attributes.entries
  cases key with
  | none => exact hattributes.map
  | some key =>
    have hkey : Checks b ((key.resolve b).map some) key.uses := by
      rw [Checks, ← key.resolve_checks]
      cases key.resolve b <;> rfl
    exact hkey.bind fun key => hattributes.map

mutual
/-- **Evaluating a tree comes out as checking its uses one after the other does.** -/
theorem evaluate_checks : ∀ tree : Tree, Checks b (tree.evaluate b) tree.uses
  | .mk head (.text body) =>
    (evaluateHead_checks head).bind fun _ => body.resolve_checks.map
  | .mk head (.nodes children) =>
    (evaluateHead_checks head).bind fun _ => (evaluateChildren_checks children).map

theorem evaluateChildren_checks :
    ∀ children : List (Child Tree Slot), Checks b (evaluateChildren b children) (usesOf children)
  | [] => .ok []
  | .element e :: rest => (evaluate_checks e).bind fun _ => (evaluateChildren_checks rest).map
  | .splice slot :: rest =>
    (Checks.readList slot).bind fun _ => (evaluateChildren_checks rest).map
end

/-- A tree can be evaluated if all its uses are satisfied. -/
theorem exists_evaluate {tree : Tree} (h : ∀ use ∈ tree.uses, use.check b = .ok ()) :
    ∃ e, tree.evaluate b = .ok e :=
  (evaluate_checks tree).exists_of_checkAll (checkAll_eq_ok_iff.mpr h)

end Tree

/-! ## The uses of what is read from markup -/

variable {dialect : Dialect} {shapes : List Shape}

/-- Whether values of some shapes satisfy a use. -/
def Use.Fits (shapes : List Shape) : Use → Prop
  | read slot => slot.index < shapes.length
  | splice slot => shapes[slot.index]? = some .list

theorem Use.check_of_fits {use : Use} (h : use.Fits b.shapes) : use.check b = .ok () := by
  cases use with
  | read slot =>
    have hslot : slot.index < b.values.length := by simpa [Fits, Bindings.size] using h
    rw [check, Bindings.read, Bindings.value?, List.getElem?_eq_getElem hslot]
    rfl
  | splice slot =>
    have hshape : b.shape? slot = some .list := by rw [Bindings.shape?_eq]; exact h
    obtain ⟨items, hitems⟩ := Bindings.exists_of_shape? hshape
    rw [check, hitems]
    rfl

/-- The slots that a text reads are those among its symbols. -/
theorem Interpolation.mem_reads {i : Interpolation} {slot : Slot} :
    slot ∈ i.reads ↔ .slot slot ∈ i.symbols := by
  induction i with
  | nil => simp
  | cons p i ih =>
    rw [reads_cons, symbols_cons, List.mem_append, List.mem_append, ih]
    cases p with
    | literal t => simp [Piece.slot?, Piece.symbols, Markup.mem_ofText]
    | read s => simp [Piece.slot?, Piece.symbols]

namespace Lexeme

/-- The symbols of a run, or of the content of a tag. -/
def symbols : Lexeme → Markup
  | run r => r.symbols
  | tag t => t.content

/-- Whether all slots of a lexeme have values of some shapes. -/
def Bound (shapes : List Shape) (x : Lexeme) : Prop :=
  ∀ slot, .slot slot ∈ x.symbols → slot.index < shapes.length

end Lexeme

/-- The symbols of lexemes are those of the markup. -/
theorem Cuts.mem_of_mem_symbols {start : Nat} {m : Markup} {l : List Lexeme} (h : Cuts start m l)
    {x : Lexeme} (hx : x ∈ l) {y : Symbol} (hy : y ∈ x.symbols) : y ∈ m := by
  induction h with
  | last =>
    obtain rfl := List.mem_singleton.mp hx
    exact hy
  | tag _ _ _ ih =>
    rcases List.mem_cons.mp hx with rfl | hx
    · exact List.mem_append_left _ hy
    · apply List.mem_append_right
      apply List.mem_cons_of_mem
      rcases List.mem_cons.mp hx with rfl | hx
      · exact List.mem_append_left _ hy
      · exact List.mem_append_right _ (List.mem_cons_of_mem _ (ih hx))

theorem Interpolation.fits_of_mem_uses {i : Interpolation}
    (h : ∀ slot, .slot slot ∈ i.symbols → slot.index < shapes.length) :
    ∀ use ∈ i.uses, use.Fits shapes := by
  intro use huse
  obtain ⟨slot, hslot, rfl⟩ := List.mem_map.mp huse
  exact h slot (mem_reads.mp hslot)

/-- Whatever a tag reads, in its key or in an attribute, stands between its brackets. -/
theorem Tag.fits_of_mem_headUses [Alphabet] {t : Tag} {opening : OpeningTag} {closed : Bool}
    (h : t.Opens opening closed) (ht : (Lexeme.tag t).Bound shapes) :
    ∀ use ∈ Tree.headUses (opening.head t.span), use.Fits shapes := by
  have hspells := OpeningTag.read_eq_ok_iff.mp h.2
  have hvalue : ∀ e ∈ opening.values, ∀ use ∈ e.2.uses, use.Fits shapes := by
    intro e he
    apply Interpolation.fits_of_mem_uses
    intro slot hslot
    exact ht slot (hspells.mem_content he hslot)
  intro use huse
  rcases List.mem_append.mp huse with huse | huse
  · cases hkey : opening.key with
    | none => simp [OpeningTag.head, hkey] at huse
    | some key =>
      have huse : use ∈ key.uses := by simpa [OpeningTag.head, hkey] using huse
      apply hvalue (OpeningTag.keyAttribute, key) _ use huse
      simp [OpeningTag.values, hkey]
  · obtain ⟨e, he, huse⟩ := List.mem_flatMap.mp huse
    exact hvalue e (List.mem_append_right _ he) use huse

theorem Run.fits_of_mem_uses {r : Run} (hr : (Lexeme.run r).Bound shapes) :
    ∀ use ∈ r.text.uses, use.Fits shapes := by
  intro use huse
  obtain ⟨slot, hslot, rfl⟩ := List.mem_map.mp huse
  rw [Run.reads_text] at hslot
  exact hr slot (Markup.mem_slots.mp hslot)

section

variable [Alphabet]

mutual
theorem IsElement.fits_of_mem_uses {l : List Lexeme} {e : Tree} :
    IsElement dialect shapes l e → (∀ x ∈ l, x.Bound shapes) → ∀ use ∈ e.uses, use.Fits shapes
  | .complete ho _, hl, use, huse => by
    rcases List.mem_append.mp huse with huse | huse
    · exact Tag.fits_of_mem_headUses ho (hl _ List.mem_cons_self) use huse
    · cases huse
  | .enclosing ho _ (.children hchildren) _, hl, use, huse => by
    have hinside := (List.forall_mem_append.mp (List.forall_mem_cons.mp hl).2).1
    rcases List.mem_append.mp huse with huse | huse
    · exact Tag.fits_of_mem_headUses ho (hl _ List.mem_cons_self) use huse
    · exact hchildren.fits_of_mem_uses hinside use huse
  | .enclosing ho _ (.text _ _ _) _, hl, use, huse => by
    have hinside := (List.forall_mem_append.mp (List.forall_mem_cons.mp hl).2).1
    rcases List.mem_append.mp huse with huse | huse
    · exact Tag.fits_of_mem_headUses ho (hl _ List.mem_cons_self) use huse
    · exact Run.fits_of_mem_uses (hinside _ (by simp)) use huse

theorem IsChildren.fits_of_mem_uses {l : List Lexeme} {children : List (Child Tree Slot)} :
    IsChildren dialect shapes l children → (∀ x ∈ l, x.Bound shapes) →
      ∀ use ∈ Tree.usesOf children, use.Fits shapes
  | .nil, _, use, huse => by cases huse
  | .element he hrest, hl, use, huse => by
    have hl := List.forall_mem_append.mp hl
    rcases List.mem_append.mp huse with huse | huse
    · exact he.fits_of_mem_uses hl.1 use huse
    · exact hrest.fits_of_mem_uses hl.2 use huse
  | .void _ _ hrest, hl, use, huse =>
    hrest.fits_of_mem_uses (List.forall_mem_cons.mp hl).2 use huse
  | .blank _ hrest, hl, use, huse =>
    hrest.fits_of_mem_uses (List.forall_mem_cons.mp hl).2 use huse
  | .splice hs hrest, hl, use, huse => by
    rcases List.mem_cons.mp huse with rfl | huse
    · exact Run.shape_of_list? hs
    · exact hrest.fits_of_mem_uses (List.forall_mem_cons.mp hl).2 use huse
end

/-- **What is read from assembled markup only has uses that the values satisfy.** -/
theorem Tree.fits_of_ofMarkup {fragments : List Text} {m : Markup} {tree : Tree}
    (hm : Markup.assemble fragments shapes.length = .ok m)
    (htree : ofMarkup dialect shapes m = .ok tree) : ∀ use ∈ tree.uses, use.Fits shapes := by
  obtain ⟨l, hl, hdocument⟩ := ofMarkup_eq_ok htree
  have hbound : ∀ x ∈ l, x.Bound shapes := by
    intro x hx slot hslot
    have hmem := Markup.mem_slots.mpr (hl.mem_of_mem_symbols hx hslot)
    exact (Markup.mem_slots_of_assemble hm).mp hmem
  cases hdocument with
  | mk _ he _ =>
    apply he.fits_of_mem_uses
    exact (List.forall_mem_append.mp (List.forall_mem_append.mp hbound).2).1

/-! ## Compiled templates -/

/-- **A compiled template never fails on values of the shapes that it was compiled for.** The plain
host installs a producer for it, and whatever the values hold, if there are as many and each has the
same shape, then the producer gives an element. -/
theorem Template.exists_produce [NumberFormat] {fragments : List Text} {b b' : Bindings}
    {m : Markup} {key : Key} {template : Template} (hm : Markup.assemble fragments b.size = .ok m)
    (htemplate : compile dialect b.shapes key m = .ok template) (hshapes : b'.shapes = b.shapes) :
    ∃ producer, (Host.plain.install template ()).1 = .ok producer ∧
      ∃ e, producer b' = .ok e := by
  rw [compile_eq] at htemplate
  split at htemplate
  · next tree htree =>
    cases htemplate
    rw [← Bindings.length_shapes] at hm
    have hfits := Tree.fits_of_ofMarkup hm htree
    rw [← hshapes] at hfits
    obtain ⟨e, he⟩ := Tree.exists_evaluate fun use huse => Use.check_of_fits (hfits use huse)
    refine ⟨(Plan.ofTree tree).produce, rfl, e, ?_⟩
    rw [Plan.produce, Plan.run_ofTree, he]
    rfl
  · cases htemplate

end

/-- A list that is compiled with a label and no items, and rendered without a label and with an
item. -/
theorem Template.exists_produce_list :
    ∃ m template,
      Markup.assemble [txt "<ul a=", txt ">", txt "</ul>"]
          (⟨[.string (txt "x"), .array []]⟩ : Bindings).size = .ok m ∧
        compile .standard (⟨[.string (txt "x"), .array []]⟩ : Bindings).shapes (.hash 0) m
          = .ok template ∧
        (⟨[.null, .array [.null]]⟩ : Bindings).shapes
          = (⟨[.string (txt "x"), .array []]⟩ : Bindings).shapes ∧
        ∃ producer, (Host.plain.install template ()).1 = .ok producer ∧
          ∃ e, producer ⟨[.null, .array [.null]]⟩ = .ok e := by
  have hm : Markup.assemble [txt "<ul a=", txt ">", txt "</ul>"]
      (⟨[.string (txt "x"), .array []]⟩ : Bindings).size
        = .ok (Markup.interleave 0 [txt "<ul a=", txt ">", txt "</ul>"]) := rfl
  have hisOk : (compile .standard (⟨[.string (txt "x"), .array []]⟩ : Bindings).shapes (.hash 0)
      (Markup.interleave 0 [txt "<ul a=", txt ">", txt "</ul>"])).isOk = true := by decide +kernel
  obtain ⟨template, htemplate⟩ := exists_of_isOk hisOk
  exact ⟨_, template, hm, htemplate, rfl, exists_produce hm htemplate rfl⟩

end MarkupTemplate
