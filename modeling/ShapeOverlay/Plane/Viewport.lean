import ShapeOverlay.Plane.Point

/-!
# Viewports

A `Viewport` is the pixel size of a surface. It converts between relative points and pixels; one
without area maps every pixel to the origin. A circle's radius has a length in pixels only on a
viewport (`Radius.effective`), where it is the norm of its two scaled components.
-/

namespace ShapeOverlay

/-- The pixel size of a surface. -/
structure Viewport (α : Type) where
  width : α
  height : α
  deriving Repr, DecidableEq

variable {α : Type} [Scalar α]

namespace Viewport

/-- The surface has no area. -/
def isEmpty (v : Viewport α) : Bool := decide (v.width ≤ 0) || decide (v.height ≤ 0)

/-- The pixel at a relative point. -/
def toPixels (v : Viewport α) (p : Point α) : Point α := ⟨p.x * v.width, p.y * v.height⟩

/-- The relative point of a pixel, which may lie off the surface; the origin if there is no area. -/
def toRelativeUnclamped (v : Viewport α) (pixel : Point α) : Point α :=
  if v.isEmpty then .origin else ⟨pixel.x / v.width, pixel.y / v.height⟩

/-- The relative point of the surface nearest to a pixel. -/
def toRelative (v : Viewport α) (pixel : Point α) : Point α := (v.toRelativeUnclamped pixel).clamped

/-- A circle around a relative centre, with its radius in pixels, lies on the surface. -/
def fitsCircle (v : Viewport α) (center : Point α) (radius : α) : Bool :=
  let c := v.toPixels center
  decide (0 ≤ c.x - radius) && decide (c.x + radius ≤ v.width) &&
    decide (0 ≤ c.y - radius) && decide (c.y + radius ≤ v.height)

end Viewport

/-- The length of a radius in pixels: the norm of its components scaled to the two axes. -/
def Radius.effective (r : Radius α) (v : Viewport α) : α :=
  Scalar.norm (r.x * v.width) (r.y * v.height)

end ShapeOverlay
