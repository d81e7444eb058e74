import MarkupTemplate.Proofs.Conservation

/-!
# The first value that is missing

    key, attributes, content ──uses──▶ met ∣ met ∣ … ∣ not met ∣ …
                                                        ╰──▶ the fault of production

A producer fails for one reason only: something in the template uses a value that is not there, or
splices one that is no list. `install_ofTree_fails_iff` says which fault that gives if there are
several, namely the one of the first use that is not met, and that there is none if all uses are
met. Templates without uses are the static ones. They are the only ones that can be produced without
values, and the only ones whose plan is an element that was built beforehand.
-/

namespace MarkupTemplate

variable {b : Bindings}

/-! ## Uses that are met, and uses that fail -/

namespace Use

/-- Whether there is what a use takes: some value to read, or a list to splice in. -/
inductive IsMet (b : Bindings) : Use → Prop
  | read {slot : Slot} {value : Json} : b.value? slot = some value → IsMet b (.read slot)
  | splice {slot : Slot} {items : List Json} :
      b.value? slot = some (.array items) → IsMet b (.splice slot)

/-- The cause for which a use fails if it is not met. -/
inductive Fails (b : Bindings) : Use → Cause → Prop
  | missing {use : Use} : b.value? use.slot = none → Fails b use (.missingValue use.slot b.size)
  | notList {slot : Slot} {value : Json} :
      b.value? slot = some value → (∀ items, value ≠ .array items) →
      Fails b (.splice slot) (.expectedList slot)

theorem isMet_or_fails (b : Bindings) (use : Use) : use.IsMet b ∨ ∃ cause, use.Fails b cause := by
  cases hvalue : b.value? use.slot with
  | none => exact .inr ⟨_, .missing hvalue⟩
  | some value =>
    cases use with
    | read slot => exact .inl (.read hvalue)
    | splice slot =>
      by_cases hlist : ∃ items, value = .array items
      · obtain ⟨items, rfl⟩ := hlist
        exact .inl (.splice hvalue)
      · exact .inr ⟨_, .notList hvalue fun items h => hlist ⟨items, h⟩⟩

theorem IsMet.check_eq {use : Use} (h : use.IsMet b) : use.check b = .ok () := by
  cases h with
  | read hvalue => rw [check, Bindings.read, hvalue]; rfl
  | splice hvalue => rw [check, Bindings.readList, hvalue]; rfl

theorem Fails.check_eq {use : Use} {cause : Cause} (h : use.Fails b cause) :
    use.check b = .error cause := by
  cases h with
  | missing hvalue =>
    cases use with
    | read slot =>
      have hvalue : b.value? slot = none := hvalue
      rw [check, Bindings.read, hvalue]
      rfl
    | splice slot =>
      have hvalue : b.value? slot = none := hvalue
      rw [check, Bindings.readList, hvalue]
      rfl
  | notList hvalue hlist =>
    rw [check, Bindings.readList, hvalue]
    split
    · next items h => exact absurd (Option.some.inj h) (hlist items)
    · rfl
    · next h => cases h

theorem check_eq_ok_iff {use : Use} : use.check b = .ok () ↔ use.IsMet b := by
  constructor
  · intro h
    rcases isMet_or_fails b use with hmet | ⟨cause, hfails⟩
    · exact hmet
    · rw [hfails.check_eq] at h
      cases h
  · exact IsMet.check_eq

/-- What fails is the lookup of a value, and the fault names the slot. -/
theorem Fails.describes {use : Use} {cause : Cause} (h : use.Fails b cause) :
    cause.kind = .lookup ∧
      ∃ before after, cause.help = some (before ++ use.slot.token ++ after) := by
  cases h with
  | missing => exact ⟨rfl, ['`'], _, by
    rw [Cause.help, List.append_assoc, List.append_assoc]
    rfl⟩
  | notList => exact ⟨rfl, ['`'], _, rfl⟩

/-- **Checking stops at the first use that fails.** -/
theorem checkAll_eq_error_iff {l : List Use} {cause : Cause} :
    checkAll b l = .error cause ↔
      ∃ before use after, l = before ++ use :: after ∧ (∀ met ∈ before, met.IsMet b) ∧
        use.Fails b cause := by
  induction l with
  | nil => simp [checkAll]
  | cons first rest ih =>
    rw [checkAll]
    constructor
    · intro h
      rcases isMet_or_fails b first with hmet | ⟨cause', hfails⟩
      · rw [hmet.check_eq] at h
        obtain ⟨before, use, after, rfl, hbefore, hfails⟩ := ih.mp h
        exact ⟨first :: before, use, after, rfl, List.forall_mem_cons.mpr ⟨hmet, hbefore⟩, hfails⟩
      · rw [hfails.check_eq] at h
        cases h
        exact ⟨[], first, rest, rfl, List.forall_mem_nil _, hfails⟩
    · rintro ⟨before, use, after, hl, hbefore, hfails⟩
      cases before with
      | nil =>
        obtain ⟨rfl, rfl⟩ := List.cons.inj hl
        rw [hfails.check_eq]
        rfl
      | cons met before =>
        obtain ⟨rfl, rfl⟩ := List.cons.inj hl
        obtain ⟨hmet, hbefore⟩ := List.forall_mem_cons.mp hbefore
        rw [hmet.check_eq]
        exact ih.mpr ⟨before, use, after, rfl, hbefore, hfails⟩

theorem not_isMet_empty (use : Use) : ¬ use.IsMet .empty := by
  intro h
  cases h with
  | read hvalue => cases hvalue
  | splice hvalue => cases hvalue

end Use

open Use

/-! ## Static trees use nothing -/

theorem Interpolation.uses_eq_nil_iff {i : Interpolation} : i.uses = [] ↔ i.isStatic = true := by
  rw [uses, isStatic, List.map_eq_nil_iff, List.isEmpty_iff]

namespace Tree

theorem headUses_eq_nil_iff {head : Head Span Interpolation} :
    headUses head = [] ↔ headIsStatic head = true := by
  have hkey : (head.key.map Interpolation.uses).getD [] = [] ↔
      head.key.all Interpolation.isStatic = true := by
    cases head.key with
    | none => simp
    | some key => exact Interpolation.uses_eq_nil_iff
  have hattributes : entryUses head.attributes.entries = [] ↔
      head.attributes.values.all Interpolation.isStatic = true := by
    simp [entryUses, Attributes.values, Interpolation.uses_eq_nil_iff]
  rw [headUses, List.append_eq_nil_iff, hkey, hattributes, headIsStatic, Bool.and_eq_true]

mutual
/-- **A tree is static if and only if it uses nothing.** -/
theorem uses_eq_nil_iff : ∀ tree : Tree, tree.uses = [] ↔ tree.isStatic = true
  | .mk head (.text body) => by
    rw [uses, isStatic, List.append_eq_nil_iff, Bool.and_eq_true, headUses_eq_nil_iff,
      Interpolation.uses_eq_nil_iff]
  | .mk head (.nodes children) => by
    rw [uses, isStatic, List.append_eq_nil_iff, Bool.and_eq_true, headUses_eq_nil_iff,
      usesOf_eq_nil_iff children]

theorem usesOf_eq_nil_iff :
    ∀ children : List (Child Tree Slot), usesOf children = [] ↔ allStatic children = true
  | [] => by simp [usesOf, allStatic]
  | .element e :: rest => by
    rw [usesOf, allStatic, List.append_eq_nil_iff, Bool.and_eq_true, uses_eq_nil_iff e,
      usesOf_eq_nil_iff rest]
  | .splice slot :: rest => by simp [usesOf, allStatic]
end

/-! ## How a tree is evaluated -/

variable [NumberFormat]

theorem exists_evaluate_iff {tree : Tree} :
    (∃ e, tree.evaluate b = .ok e) ↔ ∀ use ∈ tree.uses, use.IsMet b := by
  simp only [← check_eq_ok_iff]
  rw [← checkAll_eq_ok_iff, ← evaluate_checks, map_eq_ok]
  simp only [and_true]

theorem evaluate_eq_error_iff {tree : Tree} {cause : Cause} :
    tree.evaluate b = .error cause ↔
      ∃ before use after, tree.uses = before ++ use :: after ∧ (∀ met ∈ before, met.IsMet b) ∧
        use.Fails b cause := by
  rw [← checkAll_eq_error_iff, ← evaluate_checks]
  cases tree.evaluate b with
  | error cause' => simp [Except.map]
  | ok e => simp [Except.map]

end Tree

/-- A plan is an element that was built beforehand if and only if the tree is static. -/
theorem Plan.exists_static_iff (tree : Tree) :
    (∃ e, ofTree tree = .static e) ↔ tree.isStatic = true := by
  obtain ⟨head, content⟩ := tree
  cases content with
  | text body =>
    rw [ofTree]
    split <;> simp_all [ofHead]
  | nodes children =>
    rw [ofTree]
    split <;> simp_all [ofHead]

/-- **Production fails where a value is missing.** For every tree the plain host installs a
producer, which gives an element if and only if every slot that the tree reads has a value and every
slot that it splices is bound to a list. Otherwise the lookup of a value fails: that of the first
slot without what the tree takes from it, in the order key, attributes, content, at any depth.
Without values the static trees are produced and no others, and theirs are the plans that were built
beforehand. -/
theorem install_ofTree_fails_iff [NumberFormat] (key : Key) (tree : Tree) :
    ∃ producer, (Host.plain.install (Template.ofTree key tree) ()).1 = .ok producer ∧
      (∀ b, (∃ e, producer b = .ok e) ↔ ∀ use ∈ tree.uses, use.IsMet b) ∧
      (∀ b fault, producer b = .error fault ↔
        ∃ before use after cause, tree.uses = before ++ use :: after ∧
          (∀ met ∈ before, met.IsMet b) ∧ use.Fails b cause ∧ fault = Fault.ofCause cause ∧
          fault.kind = .lookup ∧ ∃ s t, fault.help = some (s ++ use.slot.token ++ t)) ∧
      ((∃ e, producer .empty = .ok e) ↔ tree.isStatic = true) ∧
      ((∃ e, (Template.ofTree key tree).plan = .static e) ↔ tree.isStatic = true) := by
  have hrun : ∀ b, (Plan.ofTree tree).produce b = (tree.evaluate b).mapError Fault.ofCause := by
    intro b
    rw [Plan.produce, Plan.run_ofTree]
  have hok : ∀ b, (∃ e, (Plan.ofTree tree).produce b = .ok e) ↔
      ∀ use ∈ tree.uses, use.IsMet b := by
    intro b
    rw [hrun, ← Tree.exists_evaluate_iff]
    simp only [mapError_eq_ok]
  refine ⟨(Plan.ofTree tree).produce, rfl, hok, ?_, ?_, Plan.exists_static_iff tree⟩
  · intro b fault
    rw [hrun]
    constructor
    · intro h
      obtain ⟨cause, hcause, rfl⟩ := mapError_eq_error.mp h
      obtain ⟨before, use, after, huses, hbefore, hfails⟩ := Tree.evaluate_eq_error_iff.mp hcause
      exact ⟨before, use, after, cause, huses, hbefore, hfails, rfl, hfails.describes⟩
    · rintro ⟨before, use, after, cause, huses, hbefore, hfails, rfl, -⟩
      have hcause := Tree.evaluate_eq_error_iff.mpr ⟨before, use, after, huses, hbefore, hfails⟩
      rw [hcause]
      rfl
  · rw [hok, ← Tree.uses_eq_nil_iff, List.eq_nil_iff_forall_not_mem]
    exact forall₂_congr fun use _ => iff_false_intro use.not_isMet_empty

end MarkupTemplate
