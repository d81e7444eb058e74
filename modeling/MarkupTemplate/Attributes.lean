import MarkupTemplate.Text.Basic

/-!
# Attributes

The attributes of an element in the order they were written, each name once. A name that is written
again keeps its first place and takes the new value: `lookup?_insert` says what a later look-up
finds, and `names_insert` where the name stands.
-/

namespace MarkupTemplate

/-- Put a value under a name: in the place of the name if it is there, and at the end if not. -/
def insertEntry {α : Type} (name : Text) (value : α) : List (Text × α) → List (Text × α)
  | [] => [(name, value)]
  | (n, v) :: rest =>
    if n = name then (n, value) :: rest else (n, v) :: insertEntry name value rest

theorem map_fst_insertEntry {α : Type} (name : Text) (value : α) (l : List (Text × α)) :
    (insertEntry name value l).map Prod.fst =
      if name ∈ l.map Prod.fst then l.map Prod.fst else l.map Prod.fst ++ [name] := by
  induction l with
  | nil => simp [insertEntry]
  | cons e l ih =>
    obtain ⟨n, v⟩ := e
    by_cases h : n = name
    · simp [insertEntry, h]
    · simp only [insertEntry, if_neg h, List.map_cons, ih, List.mem_cons]
      by_cases hm : name ∈ l.map Prod.fst
      · simp [hm]
      · simp [hm, Ne.symm h]

theorem insertEntry_of_notMem {α : Type} (name : Text) (value : α) (l : List (Text × α))
    (h : name ∉ l.map Prod.fst) : insertEntry name value l = l ++ [(name, value)] := by
  induction l with
  | nil => rfl
  | cons e l ih =>
    simp only [List.map_cons, List.mem_cons, not_or] at h
    rw [insertEntry, if_neg (Ne.symm h.1), ih h.2, List.cons_append]

/-- Named values in order, no name twice. -/
structure Attributes (α : Type) where
  entries : List (Text × α)
  nodup : (entries.map Prod.fst).Nodup
  deriving DecidableEq, Repr

namespace Attributes

variable {α β : Type}

def empty : Attributes α := ⟨[], List.nodup_nil⟩

def names (a : Attributes α) : List Text := a.entries.map Prod.fst

def values (a : Attributes α) : List α := a.entries.map Prod.snd

def insert (a : Attributes α) (name : Text) (value : α) : Attributes α where
  entries := insertEntry name value a.entries
  nodup := by
    rw [map_fst_insertEntry]
    split
    · exact a.nodup
    · next h =>
      rw [List.nodup_append]
      exact ⟨a.nodup, by simp, by
        intro x hx y hy
        simp only [List.mem_singleton] at hy
        rintro rfl
        exact h (hy ▸ hx)⟩

/-- Put named values in, one after the other. -/
def ofList (l : List (Text × α)) : Attributes α :=
  l.foldl (fun a e => a.insert e.1 e.2) empty

def lookup? (a : Attributes α) (name : Text) : Option α := a.entries.lookup name

/-- The same names in the same order with other values. -/
def map (f : α → β) (a : Attributes α) : Attributes β where
  entries := a.entries.map fun e => (e.1, f e.2)
  nodup := by simpa [List.map_map, Function.comp_def] using a.nodup

@[simp] theorem entries_empty : (empty : Attributes α).entries = [] := rfl

@[simp] theorem entries_insert (a : Attributes α) (name : Text) (value : α) :
    (a.insert name value).entries = insertEntry name value a.entries := rfl

@[simp] theorem entries_map (f : α → β) (a : Attributes α) :
    (a.map f).entries = a.entries.map fun e => (e.1, f e.2) := rfl

@[ext] theorem ext {a b : Attributes α} (h : a.entries = b.entries) : a = b := by
  cases a; cases b; simp_all

/-- A name keeps its first place, and a new name goes to the end. -/
theorem names_insert (a : Attributes α) (name : Text) (value : α) :
    (a.insert name value).names = if name ∈ a.names then a.names else a.names ++ [name] :=
  map_fst_insertEntry name value a.entries

/-- Putting in names that are new and distinct appends them. -/
theorem entries_foldl_insert (l : List (Text × α)) (a : Attributes α)
    (h : (a.names ++ l.map Prod.fst).Nodup) :
    (l.foldl (fun a e => a.insert e.1 e.2) a).entries = a.entries ++ l := by
  induction l generalizing a with
  | nil => simp
  | cons e l ih =>
    have hnew : e.1 ∉ a.names := by
      intro hmem
      exact (List.nodup_append.mp h).2.2 _ hmem _ (by simp) rfl
    have hentries : (a.insert e.1 e.2).entries = a.entries ++ [e] :=
      insertEntry_of_notMem e.1 e.2 a.entries hnew
    have hnames : (a.insert e.1 e.2).names = a.names ++ [e.1] := by
      rw [names_insert, if_neg hnew]
    rw [List.foldl_cons, ih, hentries, List.append_assoc, List.singleton_append]
    rw [hnames, List.append_assoc]
    simpa using h

/-- Distinct names stay as they are. -/
theorem entries_ofList {l : List (Text × α)} (h : (l.map Prod.fst).Nodup) :
    (ofList l).entries = l := by
  rw [ofList, entries_foldl_insert l empty (by simpa [names] using h)]
  simp

/-- New values under the names of other attributes stay in order. -/
theorem entries_ofList_of_names {a : Attributes α} {l : List (Text × β)}
    (h : l.map Prod.fst = a.entries.map Prod.fst) : (ofList l).entries = l := by
  apply entries_ofList
  rw [h]
  exact a.nodup

theorem lookup_insertEntry (name : Text) (value : α) (l : List (Text × α)) (n : Text) :
    (insertEntry name value l).lookup n = if n = name then some value else l.lookup n := by
  induction l with
  | nil =>
    by_cases h : n = name
    · simp [insertEntry, h]
    · have hb : (n == name) = false := by simpa using h
      simp [insertEntry, List.lookup_cons, hb, h]
  | cons e l ih =>
    obtain ⟨m, v⟩ := e
    by_cases hm : m = name
    · subst hm
      by_cases hn : n = m
      · simp [insertEntry, hn]
      · have hb : (n == m) = false := by simpa using hn
        simp [insertEntry, List.lookup_cons, hb, hn]
    · by_cases hn : n = m
      · subst hn
        simp [insertEntry, hm]
      · have hb : (n == m) = false := by simpa using hn
        simp [insertEntry, hm, List.lookup_cons, hb, ih]

/-- The last value written under a name is the one found. -/
theorem lookup?_insert (a : Attributes α) (name : Text) (value : α) (n : Text) :
    (a.insert name value).lookup? n = if n = name then some value else a.lookup? n :=
  lookup_insertEntry name value a.entries n

end Attributes

end MarkupTemplate
