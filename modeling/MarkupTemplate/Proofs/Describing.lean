import Mathlib.Data.List.Forall2
import Mathlib.Tactic.MkIffOfInductiveProp
import MarkupTemplate.Element.Rendered
import MarkupTemplate.Proofs.FieldOrder

/-!
# What the JSON form of an element tells

    element ──toJson──▶ object of `attrs`, `children`, `key` if there is one, and `tag`
      splice ─────────▶ object of `children`

The JSON form of an element has no mark of what it is the form of: a text, a list of children, an
element and a splice are told apart by their shapes alone, and the items of a splice may have any of
these shapes. `toJson_eq_iff` says that this is enough. The form determines the element up to the
order of its attributes, which an object does not keep, and the slots of its splices, which are not
in it.

Two numbers may be equal and yet not the same: there are two zeros. So values are compared by a
relation here, of which it is only known that it *compares* values part by part.
-/

namespace MarkupTemplate

/-! ## Comparing values -/

namespace Json

/-- Whether two values are equal if the two zeros are. -/
inductive SameAs : Json → Json → Prop
  | null : SameAs null null
  | bool (value : Bool) : SameAs (bool value) (bool value)
  | integer (value : Int) : SameAs (integer value) (integer value)
  | float {x y : Binary64} :
      x = y ∨ (x.isZero = true ∧ y.isZero = true) → SameAs (float x) (float y)
  | string (value : Text) : SameAs (string value) (string value)
  | array {items items' : List Json} :
      List.Forall₂ SameAs items items' → SameAs (array items) (array items')
  | object {fields fields' : List (Text × Json)} :
      fields.map Prod.fst = fields'.map Prod.fst →
      List.Forall₂ SameAs (fields.map Prod.snd) (fields'.map Prod.snd) →
      SameAs (object fields) (object fields')

/-- Whether a relation compares texts, and compares other values part by part. -/
structure Compares (R : Json → Json → Prop) : Prop where
  string_iff (t : Text) (v : Json) : R (string t) v ↔ v = string t
  array_iff (items : List Json) (v : Json) :
    R (array items) v ↔ ∃ items', v = array items' ∧ List.Forall₂ R items items'
  object_iff (fields : List (Text × Json)) (v : Json) :
    R (object fields) v ↔ ∃ fields', v = object fields' ∧
      fields.map Prod.fst = fields'.map Prod.fst ∧
      List.Forall₂ R (fields.map Prod.snd) (fields'.map Prod.snd)

theorem pairs_eq_iff {α β : Type} {l l' : List (α × β)} :
    l = l' ↔ l.map Prod.fst = l'.map Prod.fst ∧ l.map Prod.snd = l'.map Prod.snd := by
  refine ⟨fun h => h ▸ ⟨rfl, rfl⟩, fun ⟨hfst, hsnd⟩ => ?_⟩
  rw [← List.zip_unzip l, ← List.zip_unzip l', List.unzip_eq_map, List.unzip_eq_map]
  exact congrArg₂ List.zip hfst hsnd

theorem compares_eq : Compares (· = ·) where
  string_iff t v := eq_comm
  array_iff items v := by simp [List.forall₂_eq_eq_eq, eq_comm]
  object_iff fields v := by
    simp only [List.forall₂_eq_eq_eq, ← pairs_eq_iff]
    simp [eq_comm]

theorem compares_sameAs : Compares SameAs where
  string_iff t v := by
    constructor
    · intro h
      cases h with
      | string => rfl
    · rintro rfl
      exact .string t
  array_iff items v := by
    constructor
    · intro h
      cases h with
      | array hitems => exact ⟨_, rfl, hitems⟩
    · rintro ⟨items', rfl, hitems⟩
      exact .array hitems
  object_iff fields v := by
    constructor
    · intro h
      cases h with
      | object hnames hvalues => exact ⟨_, rfl, hnames, hvalues⟩
    · rintro ⟨fields', rfl, hnames, hvalues⟩
      exact .object hnames hvalues

namespace Compares

variable {R : Json → Json → Prop}

theorem strings_iff (hR : Compares R) {s t : Text} : R (string s) (string t) ↔ s = t := by
  rw [hR.string_iff, string.injEq, eq_comm]

theorem arrays_iff (hR : Compares R) {items items' : List Json} :
    R (array items) (array items') ↔ List.Forall₂ R items items' := by
  simp [hR.array_iff]

theorem objects_iff (hR : Compares R) {fields fields' : List (Text × Json)} :
    R (object fields) (object fields') ↔ fields.map Prod.fst = fields'.map Prod.fst ∧
      List.Forall₂ R (fields.map Prod.snd) (fields'.map Prod.snd) := by
  simp [hR.object_iff]

/-- Objects that have texts only are the same as the lists of named texts. -/
theorem stringFields_iff (hR : Compares R) {l l' : List (Text × Text)} :
    R (object (l.map fun e => (e.1, string e.2))) (object (l'.map fun e => (e.1, string e.2))) ↔
      l = l' := by
  have hnames : ∀ l : List (Text × Text),
      (l.map fun e => (e.1, string e.2)).map Prod.fst = l.map Prod.fst := by
    simp
  have hvalues : ∀ l : List (Text × Text),
      (l.map fun e => (e.1, string e.2)).map Prod.snd = (l.map Prod.snd).map string := by
    simp
  rw [hR.objects_iff, pairs_eq_iff, hnames, hnames, hvalues, hvalues, List.forall₂_map_left_iff,
    List.forall₂_map_right_iff]
  simp only [hR.strings_iff, List.forall₂_eq_eq_eq]

theorem not_string_array (hR : Compares R) {t : Text} {items : List Json} :
    ¬ R (string t) (array items) := by
  simp [hR.string_iff]

theorem not_array_string (hR : Compares R) {t : Text} {items : List Json} :
    ¬ R (array items) (string t) := by
  simp [hR.array_iff]

end Compares

end Json

namespace Rendered

open Json

/-! ## Elements that are the same -/

/-- Whether two heads are the same up to the order of attributes. -/
@[mk_iff]
structure SameHead (head head' : Head Unit Text) : Prop where
  tag : head.tag = head'.tag
  key : head.key = head'.key
  attributes : head.attributes.entries.Perm head'.attributes.entries

section Same

variable (R : Json → Json → Prop)

mutual
/-- Whether two elements are the same up to the order of attributes and the slots of splices, if
items are when they are related. -/
inductive SameElement : Rendered → Rendered → Prop
  | text {head head' : Head Unit Text} {body : Text} :
      SameHead head head' → SameElement (.mk head (.text body)) (.mk head' (.text body))
  | nodes {head head' : Head Unit Text} {children children' : List (Child Rendered Splice)} :
      SameHead head head' → SameChildren children children' →
      SameElement (.mk head (.nodes children)) (.mk head' (.nodes children'))

inductive SameChildren : List (Child Rendered Splice) → List (Child Rendered Splice) → Prop
  | nil : SameChildren [] []
  | element {e e' : Rendered} {rest rest' : List (Child Rendered Splice)} :
      SameElement e e' → SameChildren rest rest' →
      SameChildren (.element e :: rest) (.element e' :: rest')
  | splice {s s' : Splice} {rest rest' : List (Child Rendered Splice)} :
      List.Forall₂ R s.items s'.items → SameChildren rest rest' →
      SameChildren (.splice s :: rest) (.splice s' :: rest')
end

end Same

/-! ## The objects of elements -/

variable {R : Json → Json → Prop}

/-- The object of some attributes. -/
def attributesObject (attributes : Attributes Text) : Json :=
  .object (sortFields (attributes.entries.map fun e => (e.1, .string e.2)))

/-- The fields of an element in order of names. -/
theorem describeHead_sortFields (head : Head Unit Text) (content : Json) :
    describeHead sortFields head content = .object ((txt "attrs", attributesObject head.attributes)
      :: (txt "children", content) :: (keyField head.key ++ [(txt "tag", .string head.tag)])) := by
  obtain ⟨tag, _ | key, attributes, origin⟩ := head <;> rfl

theorem attributesObject_iff (hR : Compares R) {attributes attributes' : Attributes Text} :
    R (attributesObject attributes) (attributesObject attributes') ↔
      attributes.entries.Perm attributes'.entries := by
  rw [attributesObject, attributesObject, sortFields_map, sortFields_map, hR.stringFields_iff,
    sortFields_eq_iff attributes.nodup attributes'.nodup]

/-- The objects of two elements tell their heads and their contents. -/
theorem describeHead_iff (hR : Compares R) {head head' : Head Unit Text} {content content' : Json} :
    R (describeHead sortFields head content) (describeHead sortFields head' content') ↔
      SameHead head head' ∧ R content content' := by
  rw [describeHead_sortFields, describeHead_sortFields, hR.objects_iff, sameHead_iff,
    ← attributesObject_iff hR]
  cases head.key with
  | none =>
    cases head'.key with
    | none => simp [keyField, hR.strings_iff, and_assoc, and_comm]
    | some key' => simp [keyField]
  | some key =>
    cases head'.key with
    | none => simp [keyField]
    | some key' => simp [keyField, hR.strings_iff, and_assoc, and_comm, and_left_comm]

/-- An element is not taken for a splice, since it has a tag. -/
theorem not_describeHead_splice (hR : Compares R) (head : Head Unit Text) (content items : Json) :
    ¬ R (describeHead sortFields head content) (.object [(txt "children", items)]) := by
  rw [describeHead_sortFields, hR.objects_iff]
  simp

theorem not_splice_describeHead (hR : Compares R) (head : Head Unit Text) (content items : Json) :
    ¬ R (.object [(txt "children", items)]) (describeHead sortFields head content) := by
  rw [describeHead_sortFields, hR.objects_iff]
  simp

theorem splice_iff (hR : Compares R) {items items' : List Json} :
    R (.object [(txt "children", .array items)]) (.object [(txt "children", .array items')]) ↔
      List.Forall₂ R items items' := by
  simp [hR.objects_iff, hR.arrays_iff]

theorem exists_describe_eq (arrange : Arrangement) (e : Rendered) :
    ∃ content, describe arrange e = describeHead arrange e.head content := by
  match e with
  | .mk head (.text body) => exact ⟨_, describe.eq_1 ..⟩
  | .mk head (.nodes children) => exact ⟨_, describe.eq_2 ..⟩

-- By recursion over both trees at once: where their shapes part, their forms are of other kinds or
-- have other names.
mutual
theorem describe_iff (hR : Compares R) (e e' : Rendered) :
    R (describe sortFields e) (describe sortFields e') ↔ SameElement R e e' := by
  match e, e' with
  | .mk head (.text body), .mk head' (.text body') =>
    rw [describe, describe, describeHead_iff hR, hR.strings_iff]
    constructor
    · rintro ⟨hhead, rfl⟩
      exact .text hhead
    · intro h
      cases h with
      | text hhead => exact ⟨hhead, rfl⟩
  | .mk head (.text body), .mk head' (.nodes children') =>
    rw [describe, describe, describeHead_iff hR]
    constructor
    · exact fun ⟨_, h⟩ => absurd h hR.not_string_array
    · rintro ⟨⟩
  | .mk head (.nodes children), .mk head' (.text body') =>
    rw [describe, describe, describeHead_iff hR]
    constructor
    · exact fun ⟨_, h⟩ => absurd h hR.not_array_string
    · rintro ⟨⟩
  | .mk head (.nodes children), .mk head' (.nodes children') =>
    rw [describe, describe, describeHead_iff hR, hR.arrays_iff,
      describeAll_iff hR children children']
    constructor
    · exact fun ⟨hhead, hchildren⟩ => .nodes hhead hchildren
    · intro h
      cases h with
      | nodes hhead hchildren => exact ⟨hhead, hchildren⟩

theorem describeAll_iff (hR : Compares R) (children children' : List (Child Rendered Splice)) :
    List.Forall₂ R (describeAll sortFields children) (describeAll sortFields children') ↔
      SameChildren R children children' := by
  match children, children' with
  | [], [] =>
    rw [describeAll]
    exact ⟨fun _ => .nil, fun _ => .nil⟩
  | [], .element _ :: _ | [], .splice _ :: _ | .element _ :: _, [] | .splice _ :: _, [] =>
    rw [describeAll, describeAll]
    constructor <;> rintro ⟨⟩
  | .element e :: rest, .element e' :: rest' =>
    rw [describeAll, describeAll, List.forall₂_cons, describe_iff hR e e',
      describeAll_iff hR rest rest']
    constructor
    · exact fun ⟨he, hrest⟩ => .element he hrest
    · intro h
      cases h with
      | element he hrest => exact ⟨he, hrest⟩
  | .element e :: rest, .splice s' :: rest' =>
    rw [describeAll, describeAll, List.forall₂_cons]
    constructor
    · obtain ⟨content, he⟩ := exists_describe_eq sortFields e
      rw [he]
      exact fun ⟨h, _⟩ => (not_describeHead_splice hR _ _ _ h).elim
    · rintro ⟨⟩
  | .splice s :: rest, .element e' :: rest' =>
    rw [describeAll, describeAll, List.forall₂_cons]
    constructor
    · obtain ⟨content, he⟩ := exists_describe_eq sortFields e'
      rw [he]
      exact fun ⟨h, _⟩ => (not_splice_describeHead hR _ _ _ h).elim
    · rintro ⟨⟩
  | .splice s :: rest, .splice s' :: rest' =>
    rw [describeAll, describeAll, List.forall₂_cons, splice_iff hR, describeAll_iff hR rest rest']
    constructor
    · exact fun ⟨hitems, hrest⟩ => .splice hitems hrest
    · intro h
      cases h with
      | splice hitems hrest => exact ⟨hitems, hrest⟩
end

/-- **The JSON form of an element tells everything but the order of its attributes and the slots of
its splices**, and it tells it as exactly as values are compared. -/
theorem toJson_eq_iff (e e' : Rendered) :
    (e.toJson = e'.toJson ↔ SameElement (· = ·) e e') ∧
      (SameAs e.toJson e'.toJson ↔ SameElement SameAs e e') :=
  ⟨describe_iff compares_eq e e', describe_iff compares_sameAs e e'⟩

example (slot slot' : Slot) (items : List Json) :
    (((ofTag (txt "ol")).withAttribute (txt "id") (txt "steps")).withAttribute (txt "dir")
        (txt "rtl") |>.withChild (.splice ⟨slot, items⟩)).toJson
      = (((ofTag (txt "ol")).withAttribute (txt "dir") (txt "rtl")).withAttribute (txt "id")
        (txt "steps") |>.withChild (.splice ⟨slot', items⟩)).toJson :=
  rfl

end Rendered

end MarkupTemplate
