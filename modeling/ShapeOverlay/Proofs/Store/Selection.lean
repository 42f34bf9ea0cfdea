import ShapeOverlay.Proofs.Store.Identity
import ShapeOverlay.Proofs.Store.Removal
import ShapeOverlay.Proofs.Value.Agreement

/-! # What a selector picks out

A selector describes shapes (`Store.Describes`), and the places that it picks out are just those of
the shapes that it describes (`Store.mem_select_iff`). Where the place does not matter, nothing that
it describes is left when these are taken out (`Store.select_remove_eq_nil`). The first shape that has
an attribute is found at the first of the places that are picked out by it (`Store.find?_eq_bind`). -/

namespace ShapeOverlay

/-- A shape has what is read from it under a name. -/
theorem Shape.hasAttribute_of_attribute? {α : Type} {shape : Shape α} {name : String} {v : Value}
    (h : shape.attribute? name = some v) : shape.hasAttribute name v = true := by
  rw [hasAttribute, h]
  exact v.agrees_self

namespace Store

variable {α : Type} {s : Store α} {i : Nat} {shape : Shape α} {selector : Selector}

/-! ### Described shapes -/

/-- A selector describes the shape that stands at a place. -/
def Describes (s : Store α) (i : Nat) (shape : Shape α) : Selector → Prop
  | .all => True
  | .index j => i = j
  | .id id => shape.id = id ∧ s.IsFirst i shape
  | .attribute name value => shape.hasAttribute name value = true

theorem lt_size_iff : i < s.size ↔ ∃ shape, s.get? i = some shape := by
  rw [get?, size, ← Option.isSome_iff_exists, isSome_getElem?]

/-- **A selector picks out the shapes that it describes.** -/
theorem mem_select_iff :
    i ∈ s.select selector ↔ ∃ shape, s.get? i = some shape ∧ s.Describes i shape selector := by
  match selector with
  | .all =>
    rw [select, List.mem_range, lt_size_iff]
    simp only [Describes, and_true]
  | .index j =>
    have hmem : i ∈ s.select (.index j) ↔ i < s.size ∧ i = j := by
      rw [select]
      split
      · next hj =>
        rw [List.mem_singleton]
        exact ⟨fun h => ⟨h ▸ hj, h⟩, And.right⟩
      · next hj =>
        refine ⟨fun h => absurd h List.not_mem_nil, ?_⟩
        rintro ⟨hi, rfl⟩
        exact absurd hi hj
    rw [hmem, lt_size_iff]
    exact exists_and_right.symm
  | .id id =>
    rw [select, Option.mem_toList]
    constructor
    · intro h
      obtain ⟨shape, hshape, rfl⟩ := get?_of_indexOf? h
      exact ⟨shape, hshape, rfl, (isFirst_iff hshape).2 h⟩
    · rintro ⟨shape, hshape, rfl, hfirst⟩
      exact (isFirst_iff hshape).1 hfirst
  | .attribute name value =>
    simp only [select, List.mem_map, List.mem_filter, Prod.exists, exists_eq_right,
      List.mk_mem_zipIdx_iff_getElem?]
    exact Iff.rfl

/-- **Nothing is left to pick out** if what is described does not depend on the place. -/
theorem select_remove_eq_nil {p : Shape α → Prop}
    (h : ∀ (t : Store α) (i : Nat) (shape : Shape α), t.Describes i shape selector ↔ p shape) :
    (s.remove selector).2.select selector = [] := by
  refine List.eq_nil_iff_forall_not_mem.2 fun i hi => ?_
  obtain ⟨shape, hshape, hdescribed⟩ := mem_select_iff.1 hi
  rw [remove_eq] at hshape
  have hmem : shape ∈ elementsAt (· ∉ s.select selector) s.shapes := List.mem_of_getElem? hshape
  obtain ⟨j, hj, hkept⟩ := mem_elementsAt.1 hmem
  refine of_decide_eq_true hkept (mem_select_iff.2 ⟨shape, hj, ?_⟩)
  exact (h s j shape).2 ((h _ i shape).1 hdescribed)

/-! ### The first shape with an attribute -/

/-- The first shape that has an attribute stands at the first place that is picked out by it. -/
theorem find?_eq_bind (name : String) (value : Value) : s.find? name value =
    (s.select (.attribute name value)).head?.bind fun i => (s.get? i).map fun shape => (i, shape) := by
  rw [find?, select, List.head?_map, List.head?_filter, Option.bind_map, Option.map_eq_bind]
  refine Option.bind_congr fun found hfound => ?_
  have hget : s.get? found.2 = some found.1 :=
    List.mk_mem_zipIdx_iff_getElem?.1 (List.mem_of_find?_eq_some hfound)
  simp [hget]

theorem find?_eq_none_iff (name : String) (value : Value) :
    s.find? name value = none ↔ s.select (.attribute name value) = [] := by
  rw [find?, select, Option.map_eq_none_iff, List.find?_eq_none, List.map_eq_nil_iff,
    List.filter_eq_nil_iff]

/-! ### The two parts of a list -/

/-- **A selection parts the list.** -/
theorem selection_parts_list (s : Store α) :
    (∀ selector : Selector,
      (s.select selector).Pairwise (· < ·) ∧
      (∀ i, i ∈ s.select selector ↔
        ∃ shape, s.get? i = some shape ∧ s.Describes i shape selector) ∧
      takeOut? s.shapes (s.select selector).reverse =
        some ((s.remove selector).1.reverse, (s.remove selector).2.shapes) ∧
      (s.remove selector).1 = elementsAt (· ∈ s.select selector) s.shapes ∧
      (s.remove selector).2.shapes = elementsAt (· ∉ s.select selector) s.shapes) ∧
    (s.remove .all).2.select .all = [] ∧
    (∀ (name : String) (value : Value),
      (s.remove (.attribute name value)).2.select (.attribute name value) = [] ∧
      s.find? name value = ((s.select (.attribute name value)).head?.bind fun i =>
        (s.get? i).map fun shape => (i, shape)) ∧
      (s.find? name value = none ↔ s.select (.attribute name value) = [])) ∧
    ∀ (shape : Shape α) (name : String) (v : Value), shape.attribute? name = some v →
      shape.hasAttribute name v = true := by
  refine ⟨fun selector => ?_, ?_, fun name value => ?_, fun _ _ _ => Shape.hasAttribute_of_attribute?⟩
  · exact ⟨s.pairwise_select selector, fun _ => mem_select_iff, s.takeOut?_select selector,
      by rw [remove_eq], by rw [remove_eq]⟩
  · exact select_remove_eq_nil (p := fun _ => True) fun _ _ _ => Iff.rfl
  · exact ⟨select_remove_eq_nil (p := (·.hasAttribute name value = true)) fun _ _ _ => Iff.rfl,
      find?_eq_bind name value, find?_eq_none_iff name value⟩

end Store

end ShapeOverlay
