import ShapeOverlay.Scalar

/-!
# Points and radii

A `Point` lives in relative space, where `(0, 0)` is the top left corner of a surface and `(1, 1)`
its bottom right one, or in pixels. A `Radius` is the pair of a circle's extents along the two axes
of the surface, each a fraction of that axis.
-/

namespace ShapeOverlay

/-- A point of the plane; `x` grows to the right, and `y` downwards. -/
structure Point (α : Type) where
  x : α
  y : α
  deriving Repr, DecidableEq

/-- The extents of a circle, as fractions of the surface's width and height. -/
structure Radius (α : Type) where
  x : α
  y : α
  deriving Repr, DecidableEq

variable {α : Type}

/-- Two points are taken for equal if their coordinates are. -/
instance [BEq α] : BEq (Point α) := ⟨fun p q => p.x == q.x && p.y == q.y⟩

/-- Two radii are taken for equal if their components are. -/
instance [BEq α] : BEq (Radius α) := ⟨fun r s => r.x == s.x && r.y == s.y⟩

namespace Point

variable [Scalar α]

/-- The point with both coordinates zero. -/
def origin : Point α := ⟨0, 0⟩

instance : Add (Point α) := ⟨fun p q => ⟨p.x + q.x, p.y + q.y⟩⟩

instance : Sub (Point α) := ⟨fun p q => ⟨p.x - q.x, p.y - q.y⟩⟩

@[simp] theorem add_x (p q : Point α) : (p + q).x = p.x + q.x := rfl

@[simp] theorem add_y (p q : Point α) : (p + q).y = p.y + q.y := rfl

@[simp] theorem sub_x (p q : Point α) : (p - q).x = p.x - q.x := rfl

@[simp] theorem sub_y (p q : Point α) : (p - q).y = p.y - q.y := rfl

/-- The point with both coordinates clamped into the closed unit range. -/
def clamped (p : Point α) : Point α := ⟨Scalar.clampUnit p.x, Scalar.clampUnit p.y⟩

end Point

namespace Radius

variable [Scalar α]

/-- The radius with both components zero. -/
def zero : Radius α := ⟨0, 0⟩

/-- The radius that reaches from the centre to a point of the edge. -/
def between (center edge : Point α) : Radius α :=
  ⟨Scalar.abs (edge.x - center.x), Scalar.abs (edge.y - center.y)⟩

/-- Both components are zero. -/
def isZero (r : Radius α) : Bool := r.x == 0 && r.y == 0

/-- The radius with both components made non-negative. -/
def magnitude (r : Radius α) : Radius α := ⟨Scalar.abs r.x, Scalar.abs r.y⟩

end Radius

end ShapeOverlay
