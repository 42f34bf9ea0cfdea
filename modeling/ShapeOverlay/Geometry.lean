import ShapeOverlay.Plane.Bounds
import ShapeOverlay.Plane.Viewport

/-!
# Geometries

A `Geometry` is a rectangle, given by two opposite corners that may lie either way, a polygon, or a
circle, whose radius has one extent per axis. The bounding box of a circle depends on the viewport
(`Geometry.bounds?`); that of the other two does not. Geometries are moved (`Geometry.translate`)
and brought into the unit square point by point (`Geometry.clamped`).
-/

namespace ShapeOverlay

/-! ### Kinds -/

/-- The kind of a geometry. -/
inductive Kind where
  | rectangle
  | polygon
  | circle
  deriving Repr, DecidableEq

namespace Kind

/-- The name of a kind. -/
def name : Kind → String
  | rectangle => "rectangle"
  | polygon => "polygon"
  | circle => "circle"

/-- All kinds. -/
def all : List Kind := [rectangle, polygon, circle]

/-- The kind with a name. -/
def ofName? (s : String) : Option Kind := all.find? (·.name == s)

theorem ofName?_name (k : Kind) : ofName? k.name = some k := by
  cases k <;> decide

end Kind

/-! ### Geometries -/

/-- The extent of a shape, in relative coordinates: two opposite corners in any order, vertices in
the order in which they are joined, or a centre and a radius with one extent per axis. -/
inductive Geometry (α : Type) where
  | rectangle (a b : Point α)
  | polygon (vertices : List (Point α))
  | circle (center : Point α) (radius : Radius α)
  deriving Repr, DecidableEq

namespace Geometry

variable {α : Type}

/-- The kind of a geometry. -/
def kind : Geometry α → Kind
  | rectangle _ _ => .rectangle
  | polygon _ => .polygon
  | circle _ _ => .circle

/-- A geometry can be stored unless it is a polygon with fewer than three vertices. -/
def isComplete : Geometry α → Bool
  | polygon vertices => 3 ≤ vertices.length
  | _ => true

/-- Two geometries are taken for equal if they are of one kind and all their points are. -/
instance [BEq α] : BEq (Geometry α) where
  beq
    | rectangle a b, rectangle c d => a == c && b == d
    | polygon ps, polygon qs => ps == qs
    | circle c r, circle d s => c == d && r == s
    | _, _ => false

variable [Scalar α]

/-- The bounding box, which only a polygon without vertices lacks. A circle's box is the box around
its centre that extends by the effective radius; it is the centre alone on a surface without
area. -/
def bounds? (v : Viewport α) : Geometry α → Option (Bounds α)
  | rectangle a b => some (.ofCorners a b)
  | polygon vertices => Bounds.ofPoints? vertices
  | circle center radius =>
    if v.isEmpty then some (.around center 0 0)
    else
      let r := radius.effective v
      some (.around center (r / v.width) (r / v.height))

theorem bounds?_eq_none_iff {g : Geometry α} {v : Viewport α} :
    g.bounds? v = none ↔ g = .polygon [] := by
  cases g with
  | rectangle a b => simp [bounds?]
  | polygon vertices => cases vertices <;> simp [bounds?, Bounds.ofPoints?]
  | circle center radius =>
    simp only [bounds?, reduceCtorEq, iff_false]
    split <;> simp

/-- The bounding box contains the point. -/
def contains (g : Geometry α) (v : Viewport α) (p : Point α) : Bool :=
  (g.bounds? v).any (·.containsPoint p)

/-- The geometry moved by a vector. -/
def translate (delta : Point α) : Geometry α → Geometry α
  | rectangle a b => rectangle (a + delta) (b + delta)
  | polygon vertices => polygon (vertices.map (· + delta))
  | circle center radius => circle (center + delta) radius

/-- The geometry with every point clamped into the unit square and the radius non-negative. -/
def clamped : Geometry α → Geometry α
  | rectangle a b => rectangle a.clamped b.clamped
  | polygon vertices => polygon (vertices.map Point.clamped)
  | circle center radius => circle center.clamped radius.magnitude

end Geometry

end ShapeOverlay
