import ShapeOverlay.Cursor
import ShapeOverlay.Geometry

/-!
# Handles

While a shape is edited it shows handles, one for each corner of a rectangle's box, one for each
vertex of a polygon and one above the centre of a circle, and a box that moves the whole shape.
`Geometry.handles` lists the handles with their places, `Geometry.overlay?` is what is shown, and
`Geometry.hitPart?` tells which part is under the pointer: the last handle near enough, else the
mover box.
-/

namespace ShapeOverlay

/-! ### Corners and handles -/

/-- A corner of a box; `nw` is the top left one. -/
inductive Corner where
  | nw
  | ne
  | se
  | sw
  deriving Repr, DecidableEq

namespace Corner

/-- The corners, clockwise from the top left as `Bounds.corners` lists them. -/
def all : List Corner := [nw, ne, se, sw]

/-- The name of a corner. -/
def name : Corner → String
  | nw => "nw"
  | ne => "ne"
  | se => "se"
  | sw => "sw"

/-- The corner lies where the box has its least horizontal coordinate. -/
def isMinX : Corner → Bool
  | nw | sw => true
  | ne | se => false

/-- The corner lies where the box has its least vertical coordinate. -/
def isMinY : Corner → Bool
  | nw | ne => true
  | se | sw => false

end Corner

/-- A part of a geometry that can be dragged on its own: a corner of a rectangle's box, a vertex of
a polygon, by its place in the list, or the point above the centre of a circle at the distance of
its radius. -/
inductive Handle where
  | corner (c : Corner)
  | vertex (i : Nat)
  | radius
  deriving Repr, DecidableEq

/-- What a pointer can take hold of while a shape is edited: a handle, or the box that moves the
whole shape. -/
inductive EditPart where
  | handle (h : Handle)
  | mover
  deriving Repr, DecidableEq

/-- What is shown of a shape that is edited, in pixels: the box that moves the whole shape, and the
centres of the handles. -/
structure Overlay (α : Type) where
  mover : Bounds α
  handles : List (Point α)
  deriving Repr, DecidableEq

/-! ### Handles of a geometry -/

variable {α : Type} [Scalar α]

/-- The place of a circle's handle: above the centre by the radius in pixels. On a surface without
area it is the centre. -/
def radiusHandle (center : Point α) (radius : α) (v : Viewport α) : Point α :=
  if v.isEmpty then center else ⟨center.x, center.y - radius / v.height⟩

namespace Geometry

/-- The handles of a geometry with their relative places. -/
def handles (g : Geometry α) (v : Viewport α) : List (Handle × Point α) :=
  match g with
  | rectangle a b => (Corner.all.map Handle.corner).zip (Bounds.ofCorners a b).corners
  | polygon vertices => vertices.mapIdx fun i p => (.vertex i, p)
  | circle center radius => [(.radius, radiusHandle center (radius.effective v) v)]

/-- The places of the handles: the corners of a rectangle's box, the vertices of a polygon, and a
place above the centre of a circle. -/
theorem map_snd_handles (g : Geometry α) (v : Viewport α) : (g.handles v).map (·.2) = match g with
    | .rectangle a b => (Bounds.ofCorners a b).corners
    | .polygon ps => ps
    | .circle c r => [radiusHandle c (r.effective v) v] := by
  cases g with
  | rectangle a b => rfl
  | polygon ps =>
    refine List.ext_getElem? fun i => ?_
    rw [handles, List.getElem?_map, List.getElem?_mapIdx, Option.map_map]
    exact Option.map_id'
  | circle c r => rfl

/-- The two relative points are no further apart than the slop in pixels, along either axis. -/
def isNear (v : Viewport α) (slop : α) (p q : Point α) : Bool :=
  let d := v.toPixels q - v.toPixels p
  decide (Scalar.abs d.x ≤ slop) && decide (Scalar.abs d.y ≤ slop)

/-- **The part of a geometry under a relative point**: the last handle near it, else the mover if
the bounding box contains the point. -/
def hitPart? (g : Geometry α) (p : Point α) (v : Viewport α) (slop : α) : Option EditPart :=
  match (g.handles v).reverse.find? fun h => isNear v slop p h.2 with
  | some (h, _) => some (.handle h)
  | none => if g.contains v p then some .mover else none

/-- The cursor for a pointer at a relative point. -/
def cursorAt (g : Geometry α) (p : Point α) (v : Viewport α) (slop : α) : Cursor :=
  match g.hitPart? p v slop with
  | some (.handle _) => .grab
  | some .mover => .move
  | none => .default

/-- What is shown of a geometry while it is edited: its box and its handles, in pixels. -/
def overlay? (g : Geometry α) (v : Viewport α) : Option (Overlay α) :=
  (g.bounds? v).map fun b =>
    ⟨.ofCorners (v.toPixels b.min) (v.toPixels b.max), (g.handles v).map fun h => v.toPixels h.2⟩

theorem overlay?_eq_none_iff {g : Geometry α} {v : Viewport α} :
    g.overlay? v = none ↔ g = .polygon [] := by
  rw [overlay?, Option.map_eq_none_iff, bounds?_eq_none_iff]

end Geometry

end ShapeOverlay
