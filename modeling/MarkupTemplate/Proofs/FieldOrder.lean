import Mathlib.Data.Char
import Mathlib.Data.List.Lex
import MarkupTemplate.Json.Basic

/-!
# Fields in order of names

    named values ──sortFields──▶ the same named values, in order of names

An object keeps its fields in order of their names, so that it does not matter in which order they
were put in. `sortFields_eq_iff` says that nothing else is forgotten: as long as no name comes
twice, two lists of named values have the same order of names if and only if they hold the same
named values.
-/

namespace MarkupTemplate

variable {α β : Type} {name : Text} {value : α} {l l' : List (Text × α)}

/-- The order of names is that of their characters, from the left. -/
theorem Text.precedes_iff {s t : Text} : s.precedes t = true ↔ s < t := by
  induction s generalizing t with
  | nil => cases t <;> simp [precedes]
  | cons a s ih =>
    cases t with
    | nil => simp [precedes]
    | cons b t =>
      have hlt : a < b ↔ a.toNat < b.toNat := Iff.rfl
      rw [precedes, List.cons_lt_cons_iff, ← ih, hlt, ← Char.toNat_inj]
      split_ifs <;> grind

/-- Whether named values are in order of names, no name twice. -/
def InOrder (l : List (Text × α)) : Prop := l.Pairwise fun e f => e.1 < f.1

/-! ## Putting in one field -/

theorem mem_insertField {e : Text × α} (h : e ∈ insertField name value l) :
    e = (name, value) ∨ e ∈ l := by
  fun_induction insertField name value l with
  | case1 => exact .inl (List.mem_singleton.mp h)
  | case2 v rest => grind
  | case3 n v rest hne hprecedes => exact List.mem_cons.mp h
  | case4 n v rest hne hprecedes ih => grind

/-- A field under a new name is put in between the others. -/
theorem insertField_perm (h : name ∉ l.map Prod.fst) :
    (insertField name value l).Perm ((name, value) :: l) := by
  fun_induction insertField name value l with
  | case1 => exact .refl _
  | case2 v rest => exact absurd List.mem_cons_self h
  | case3 => exact .refl _
  | case4 n v rest hne hprecedes ih =>
    exact ((ih (List.not_mem_of_not_mem_cons h)).cons _).trans (.swap _ _ _)

theorem InOrder.insertField (h : InOrder l) : InOrder (insertField name value l) := by
  fun_induction MarkupTemplate.insertField name value l with
  | case1 => exact List.pairwise_singleton _ _
  | case2 v rest =>
    obtain ⟨hfirst, hrest⟩ := List.pairwise_cons.mp h
    exact List.pairwise_cons.mpr ⟨hfirst, hrest⟩
  | case3 n v rest hne hprecedes =>
    obtain ⟨hfirst, -⟩ := List.pairwise_cons.mp h
    have hlt : name < n := Text.precedes_iff.mp hprecedes
    refine List.pairwise_cons.mpr ⟨List.forall_mem_cons.mpr ⟨hlt, fun e he => ?_⟩, h⟩
    exact hlt.trans (hfirst e he)
  | case4 n v rest hne hprecedes ih =>
    obtain ⟨hfirst, hrest⟩ := List.pairwise_cons.mp h
    refine List.pairwise_cons.mpr ⟨fun e he => ?_, ih hrest⟩
    rcases mem_insertField he with rfl | he
    · rw [Text.precedes_iff, not_lt] at hprecedes
      exact lt_of_le_of_ne hprecedes hne
    · exact hfirst e he

/-! ## All fields -/

theorem foldl_insertField_perm {sorted : List (Text × α)}
    (h : ((sorted ++ l).map Prod.fst).Nodup) :
    (l.foldl (fun sorted e => insertField e.1 e.2 sorted) sorted).Perm (sorted ++ l) := by
  induction l generalizing sorted with
  | nil =>
    rw [List.append_nil]
    exact .refl _
  | cons e l ih =>
    have hnew : e.1 ∉ sorted.map Prod.fst := by
      rw [List.map_append] at h
      intro hmem
      exact (List.nodup_append.mp h).2.2 _ hmem _ List.mem_cons_self rfl
    have hperm : (insertField e.1 e.2 sorted ++ l).Perm (sorted ++ e :: l) :=
      ((insertField_perm hnew).append_right l).trans List.perm_middle.symm
    exact (ih ((hperm.map Prod.fst).nodup_iff.mpr h)).trans hperm

/-- Named values are put in order without loss, as long as no name comes twice. -/
theorem sortFields_perm (h : (l.map Prod.fst).Nodup) : (sortFields l).Perm l :=
  foldl_insertField_perm h

theorem inOrder_sortFields (l : List (Text × α)) : InOrder (sortFields l) := by
  have hfoldl : ∀ sorted : List (Text × α), InOrder sorted →
      InOrder (l.foldl (fun sorted e => insertField e.1 e.2 sorted) sorted) := by
    induction l with
    | nil => exact fun sorted hsorted => hsorted
    | cons e l ih => exact fun sorted hsorted => ih _ hsorted.insertField
  exact hfoldl [] .nil

/-- There is only one order of names. -/
theorem InOrder.eq_of_perm (h : InOrder l) (h' : InOrder l') (hperm : l.Perm l') : l = l' :=
  hperm.eq_of_pairwise (fun _ _ _ _ hlt hgt => absurd hgt hlt.not_gt) h h'

/-- **Named values come in the same order of names if and only if they are the same**, up to the
order in which they were. -/
theorem sortFields_eq_iff (h : (l.map Prod.fst).Nodup) (h' : (l'.map Prod.fst).Nodup) :
    sortFields l = sortFields l' ↔ l.Perm l' := by
  have hperm := sortFields_perm h
  have hperm' := sortFields_perm h'
  constructor
  · intro heq
    rw [heq] at hperm
    exact hperm.symm.trans hperm'
  · intro hl
    exact (inOrder_sortFields l).eq_of_perm (inOrder_sortFields l')
      (hperm.trans (hl.trans hperm'.symm))

/-! ## Fields with other values -/

theorem insertField_map (f : α → β) (name : Text) (value : α) (l : List (Text × α)) :
    insertField name (f value) (l.map fun e => (e.1, f e.2))
      = (insertField name value l).map fun e => (e.1, f e.2) := by
  fun_induction insertField name value l <;> simp_all [insertField]

/-- The order depends on the names only. -/
theorem sortFields_map (f : α → β) (l : List (Text × α)) :
    sortFields (l.map fun e => (e.1, f e.2)) = (sortFields l).map fun e => (e.1, f e.2) := by
  have hfoldl : ∀ sorted : List (Text × α),
      l.foldl (fun sorted e => insertField e.1 (f e.2) sorted) (sorted.map fun e => (e.1, f e.2))
        = (l.foldl (fun sorted e => insertField e.1 e.2 sorted) sorted).map
            fun e => (e.1, f e.2) := by
    induction l with
    | nil => exact fun sorted => rfl
    | cons e l ih =>
      intro sorted
      rw [List.foldl_cons, List.foldl_cons, insertField_map, ih]
  rw [sortFields, List.foldl_map]
  exact hfoldl []

end MarkupTemplate
