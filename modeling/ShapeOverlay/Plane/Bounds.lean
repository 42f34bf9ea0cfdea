import ShapeOverlay.Plane.Point

/-!
# Axis-aligned boxes

A `Bounds` is a box given by its least and its greatest corner. Boxes are made from two corners in
any order (`Bounds.ofCorners`), from a list of points (`Bounds.ofPoints?`) or around a centre
(`Bounds.around`); containment of points and of boxes counts the edges as inside, and
`Bounds.strictlyContains` leaves out the box that equals its container.
-/

namespace ShapeOverlay

/-- An axis-aligned box, by its corners with the least and with the greatest coordinates. -/
structure Bounds (α : Type) where
  min : Point α
  max : Point α
  deriving Repr, DecidableEq

namespace Bounds

variable {α : Type}

/-- Two boxes are taken for equal if their corners are. -/
instance [BEq α] : BEq (Bounds α) := ⟨fun b c => b.min == c.min && b.max == c.max⟩

variable [Scalar α]

open Scalar

/-- The box that two opposite corners span, whichever way they lie. -/
def ofCorners (a b : Point α) : Bounds α where
  min := ⟨lesser a.x b.x, lesser a.y b.y⟩
  max := ⟨greater a.x b.x, greater a.y b.y⟩

/-- The box stretched so far that it takes in a point. -/
def stretch (b : Bounds α) (p : Point α) : Bounds α where
  min := ⟨lesser b.min.x p.x, lesser b.min.y p.y⟩
  max := ⟨greater b.max.x p.x, greater b.max.y p.y⟩

/-- The smallest box around all points of a list, if it has any: it starts at the first point and
takes in the others one after the other. -/
def ofPoints? : List (Point α) → Option (Bounds α)
  | [] => none
  | p :: ps => some (ps.foldl stretch ⟨p, p⟩)

/-- The box that extends by `rx` and `ry` to either side of a centre. -/
def around (center : Point α) (rx ry : α) : Bounds α where
  min := ⟨center.x - rx, center.y - ry⟩
  max := ⟨center.x + rx, center.y + ry⟩

/-- The horizontal extent. -/
def width (b : Bounds α) : α := b.max.x - b.min.x

/-- The vertical extent. -/
def height (b : Bounds α) : α := b.max.y - b.min.y

/-- The point lies in the box or on its edge. -/
def containsPoint (b : Bounds α) (p : Point α) : Bool :=
  decide (b.min.x ≤ p.x) && decide (p.x ≤ b.max.x) &&
    decide (b.min.y ≤ p.y) && decide (p.y ≤ b.max.y)

/-- The inner box lies within the outer one; edges may touch. -/
def contains (outer inner : Bounds α) : Bool :=
  decide (outer.min.x ≤ inner.min.x) && decide (outer.min.y ≤ inner.min.y) &&
    decide (inner.max.x ≤ outer.max.x) && decide (inner.max.y ≤ outer.max.y)

/-- The inner box lies within the outer one and is another box. -/
def strictlyContains (outer inner : Bounds α) : Bool := outer != inner && outer.contains inner

/-- The four corners, clockwise from the top left. -/
def corners (b : Bounds α) : List (Point α) :=
  [b.min, ⟨b.max.x, b.min.y⟩, b.max, ⟨b.min.x, b.max.y⟩]

end Bounds

end ShapeOverlay
