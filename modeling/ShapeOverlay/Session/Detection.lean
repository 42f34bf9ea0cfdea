import ShapeOverlay.Traversal

/-!
# Detection

A `Detection` follows the pointer and remembers which shape is under it: the last active shape in
traversal order whose box contains the pointer. A click selects whatever was found last.
-/

namespace ShapeOverlay

/-- A session that finds the shape under the pointer; `selected` is the place of the last one. -/
structure Detection where
  selected : Option Nat := none
  deriving Repr, DecidableEq

namespace Detection

variable {α : Type} [Scalar α]

/-- The place of the shape at a relative point: the last active one in traversal order whose box
contains the point. -/
def shapeAt? (shapes : List (Shape α)) (p : Point α) (v : Viewport α) : Option Nat :=
  ((Traversal.order shapes).reverse.find? fun (_, s) =>
    s.isActive && s.geometry.contains v p).map (·.1)

/-- The session after the pointer moved to a relative point. -/
def pointerMove (_ : Detection) (shapes : List (Shape α)) (p : Point α) (v : Viewport α) :
    Detection :=
  ⟨shapeAt? shapes p v⟩

/-- The place of the shape that a click selects. -/
def click (d : Detection) : Option Nat := d.selected

/-- The session after it has forgotten what it found. -/
def reset (_ : Detection) : Detection := {}

end Detection

end ShapeOverlay
