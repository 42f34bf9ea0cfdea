import ShapeOverlay.Shape.Attribute

/-!
# The list of shapes

A `Store` keeps shapes in the order in which they were put in, which is the order in which they are
painted. A shape is put in with its geometry brought into the unit square, and only if that is
complete (`Store.push`). Shapes are read by a `Query` and picked out by a `Selector`:
`Store.select` gives their places, `Store.remove` takes them out one by one (`takeOut?`), from the
last to the first.
-/

namespace ShapeOverlay

/-! ### Queries and selectors -/

/-- Which shapes are picked out: all, the one at a place, the first one with an identity, or those
that have an attribute with a value that agrees with the given one. -/
inductive Selector where
  | all
  | index (i : Nat)
  | id (id : Identifier)
  | attribute (name : String) (value : Value)

/-- Which shapes are read. -/
inductive Query where
  | all
  | index (i : Nat)
  | status (s : Status)

/-! ### Taking elements out of a list -/

/-- The elements of a list at some places, taken out one after the other, and what is left in the
end; none if a place is not there any more when its turn comes. -/
def takeOut? {β : Type} (l : List β) : List Nat → Option (List β × List β)
  | [] => some ([], l)
  | i :: places =>
    match l[i]? with
    | some b => (takeOut? (l.eraseIdx i) places).map fun (taken, rest) => (b :: taken, rest)
    | none => none

/-- **Places in descending order are there when their turn comes.** -/
theorem isSome_takeOut? {β : Type} {places : List Nat} {l : List β}
    (h : places.Pairwise (· > ·)) (hl : ∀ i ∈ places, i < l.length) :
    (takeOut? l places).isSome = true := by
  induction places generalizing l with
  | nil => rfl
  | cons i places ih =>
    obtain ⟨hi, hplaces⟩ := List.pairwise_cons.1 h
    have hlt := hl i List.mem_cons_self
    have hrest : (takeOut? (l.eraseIdx i) places).isSome = true := by
      refine ih hplaces fun j hj => ?_
      have hji : j < i := hi j hj
      rw [List.length_eraseIdx_of_lt hlt]
      omega
    simpa [takeOut?, hlt] using hrest

/-! ### Stores -/

/-- The list of shapes, in the order in which they were put in. -/
structure Store (α : Type) where
  shapes : List (Shape α) := []

namespace Store

variable {α : Type}

/-- The store without shapes. -/
def empty : Store α := {}

/-- The number of shapes. -/
def size (s : Store α) : Nat := s.shapes.length

/-- The store has no shapes. -/
def isEmpty (s : Store α) : Bool := s.shapes.isEmpty

/-- The shape at a place. -/
def get? (s : Store α) (i : Nat) : Option (Shape α) := s.shapes[i]?

/-- The place of the first shape with an identity. -/
def indexOf? (s : Store α) (id : Identifier) : Option Nat := s.shapes.findIdx? (·.id == id)

/-- The first shape with an identity. -/
def lookup (s : Store α) (id : Identifier) : Option (Shape α) := (s.indexOf? id).bind s.get?

/-- The store with the shape at a place changed. -/
def modify (s : Store α) (i : Nat) (f : Shape α → Shape α) : Store α := ⟨s.shapes.modify i f⟩

/-- The store with the shapes at some places changed. -/
def update (s : Store α) (places : List Nat) (f : Shape α → Shape α) : Store α :=
  ⟨s.shapes.mapIdx fun i shape => if i ∈ places then f shape else shape⟩

@[simp] theorem size_modify (s : Store α) (i : Nat) (f : Shape α → Shape α) :
    (s.modify i f).size = s.size := by
  simp [modify, size]

@[simp] theorem size_update (s : Store α) (places : List Nat) (f : Shape α → Shape α) :
    (s.update places f).size = s.size := by
  simp [update, size]

/-! ### Putting in -/

/-- The store with a shape put in at the end, brought into the unit square; none if the geometry of
the shape is incomplete. The shape's place is the size of the store before. -/
def push [Scalar α] (s : Store α) (shape : Shape α) : Option (Store α) :=
  if shape.geometry.isComplete then some ⟨s.shapes ++ [shape.clamped]⟩ else none

theorem push_eq_some_iff [Scalar α] {s t : Store α} {shape : Shape α} :
    s.push shape = some t ↔
      shape.geometry.isComplete = true ∧ t = ⟨s.shapes ++ [shape.clamped]⟩ := by
  by_cases h : shape.geometry.isComplete = true
  · simp only [push, h, if_true, Option.some.injEq, true_and]
    exact eq_comm
  · simp [push, h]

/-- The store with several shapes put in, and for each of them whether it was accepted, with the
place that it has got then. -/
def pushAll [Scalar α] (s : Store α) (shapes : List (Shape α)) : Store α × List (Option Nat) :=
  shapes.foldl
    (fun (s, places) shape =>
      match s.push shape with
      | some s' => (s', places ++ [some s.size])
      | none => (s, places ++ [none]))
    (s, [])

/-! ### Reading -/

/-- The shapes that a query asks for, in order. -/
def query (s : Store α) : Query → List (Shape α)
  | .all => s.shapes
  | .index i => (s.get? i).toList
  | .status status => s.shapes.filter (·.status == status)

/-- The first shape that has an attribute with a value that agrees with the given one, behind its
place. -/
def find? (s : Store α) (name : String) (value : Value) : Option (Nat × Shape α) :=
  (s.shapes.zipIdx.find? fun (shape, _) => shape.hasAttribute name value).map fun (shape, i) =>
    (i, shape)

/-! ### Picking out and taking out -/

/-- The places of the shapes that a selector picks out, in ascending order. -/
def select (s : Store α) : Selector → List Nat
  | .all => List.range s.size
  | .index i => if i < s.size then [i] else []
  | .id id => (s.indexOf? id).toList
  | .attribute name value =>
    (s.shapes.zipIdx.filter fun (shape, _) => shape.hasAttribute name value).map (·.2)

theorem pairwise_select (s : Store α) (selector : Selector) :
    (s.select selector).Pairwise (· < ·) := by
  match selector with
  | .all => exact List.pairwise_lt_range
  | .index i =>
    rw [select]
    split
    · exact List.pairwise_singleton _ i
    · exact .nil
  | .id id =>
    rw [select]
    cases s.indexOf? id with
    | none => exact .nil
    | some i => exact List.pairwise_singleton _ i
  | .attribute name value =>
    have hplaces : (s.shapes.zipIdx.map (·.2)).Pairwise (· < ·) := by
      rw [List.zipIdx_map_snd]
      exact List.pairwise_lt_range'
    exact hplaces.sublist (List.filter_sublist.map _)

theorem lt_of_mem_select {s : Store α} {selector : Selector} {i : Nat}
    (h : i ∈ s.select selector) : i < s.size := by
  match selector with
  | .all => exact List.mem_range.1 h
  | .index j =>
    rw [select] at h
    split at h
    · next hj => exact List.mem_singleton.1 h ▸ hj
    · cases h
  | .id id =>
    rw [select, Option.mem_toList] at h
    exact (List.findIdx?_eq_some_iff_getElem.1 h).1
  | .attribute name value =>
    rw [select] at h
    obtain ⟨⟨shape, j⟩, hj, rfl⟩ := List.mem_map.1 h
    exact List.snd_lt_of_mem_zipIdx (List.mem_filter.1 hj).1

theorem isSome_takeOut?_select (s : Store α) (selector : Selector) :
    (takeOut? s.shapes (s.select selector).reverse).isSome = true := by
  refine isSome_takeOut? ?_ fun i hi => lt_of_mem_select (List.mem_reverse.1 hi)
  exact List.pairwise_reverse.2 (s.pairwise_select selector)

/-- **The shapes that a selector picks out, and the store without them.** The shapes are taken out
from the last to the first, so that those before them stay at their places. -/
def remove (s : Store α) (selector : Selector) : List (Shape α) × Store α :=
  let (taken, rest) := (takeOut? s.shapes (s.select selector).reverse).get
    (s.isSome_takeOut?_select selector)
  (taken.reverse, ⟨rest⟩)

end Store

end ShapeOverlay
