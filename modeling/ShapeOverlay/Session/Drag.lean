import ShapeOverlay.Handle

/-!
# Drags

A `Drag` reshapes one geometry. It remembers how far the grabbed part was from the pointer, and
every move puts the part at that distance from the pointer again (`Drag.apply`), within limits:

* the corner of a rectangle stays in the unit square and does not reach the opposite corner;
* the vertex of a polygon stays in the unit square;
* the radius of a circle changes only as long as the circle stays on the surface, and how far the
  pointer has run ahead of the handle is known (`Drag.blind`);
* the mover keeps the whole bounding box on the surface as far as it fits.
-/

namespace ShapeOverlay

/-! ### Slots -/

/-- One of the two points that a rectangle is stored as. -/
inductive Slot where
  | first
  | second
  deriving Repr, DecidableEq

namespace Slot

/-- The other point. -/
def other : Slot → Slot
  | first => second
  | second => first

/-- The value for a point out of one for each. -/
def pick {β : Type} (s : Slot) (pair : β × β) : β :=
  match s with
  | first => pair.1
  | second => pair.2

/-- The values for both points with that for one of them replaced. -/
def put {β : Type} (s : Slot) (b : β) (pair : β × β) : β × β :=
  match s with
  | first => (b, pair.2)
  | second => (pair.1, b)

@[simp] theorem other_other (s : Slot) : s.other.other = s := by
  cases s <;> rfl

@[simp] theorem pick_put {β : Type} (s : Slot) (b : β) (pair : β × β) :
    s.pick (s.put b pair) = b := by
  cases s <;> rfl

@[simp] theorem pick_other_put {β : Type} (s : Slot) (b : β) (pair : β × β) :
    s.other.pick (s.put b pair) = s.other.pick pair := by
  cases s <;> rfl

end Slot

/-! ### Drags -/

/-- A drag under way: of a corner of a rectangle, with the stored points that its two coordinates
belong to; of a vertex; of the radius of a circle, with the pointer and the radius at the grab; or
of the whole shape. Its offset is the vector from the pointer to the grabbed part. -/
inductive Drag (α : Type) where
  | corner (c : Corner) (xSlot ySlot : Slot) (offset : Point α)
  | vertex (i : Nat) (offset : Point α)
  | radius (offset origin : Point α) (grabbed : Radius α)
  | mover (offset : Point α)
  deriving Repr, DecidableEq

variable {α : Type} [Scalar α]

namespace Drag

/-- The stored point with the least or the greatest of two coordinates. -/
def slot (isMin : Bool) (a b : α) : Slot :=
  let least : Slot := if b < a then .second else .first
  if isMin then least else least.other

/-- The drag of a handle that is away from the pointer by an offset, if the geometry has it. -/
def ofHandle? (g : Geometry α) (h : Handle) (pointer offset : Point α) : Option (Drag α) :=
  match g, h with
  | .rectangle a b, .corner c =>
    some (.corner c (slot c.isMinX a.x b.x) (slot c.isMinY a.y b.y) offset)
  | .polygon vertices, .vertex i => if i < vertices.length then some (.vertex i offset) else none
  | .circle _ r, .radius => some (.radius offset pointer r)
  | _, _ => none

/-- The drag of a part of a geometry, if it has the part. -/
def ofPart? (g : Geometry α) (part : EditPart) (pointer : Point α) (v : Viewport α) :
    Option (Drag α) :=
  match part with
  | .mover => (g.bounds? v).map fun b => .mover (b.min - pointer)
  | .handle h =>
    ((g.handles v).find? (·.1 == h)).bind fun (_, place) => ofHandle? g h pointer (place - pointer)

/-! ### Moving the grabbed part -/

/-- One coordinate of a rectangle's points when that of one point is dragged to a target. It stays
where it is if it would reach the coordinate of the other point. -/
def dragAxis (isMin : Bool) (s : Slot) (target : α) (pair : α × α) : α × α :=
  let opposite := s.other.pick pair
  if (if isMin then target < opposite else opposite < target) then s.put target pair else pair

/-- The rectangle with a corner dragged to a target. -/
def dragCorner (c : Corner) (xSlot ySlot : Slot) (target a b : Point α) : Geometry α :=
  let xs := dragAxis c.isMinX xSlot target.x (a.x, b.x)
  let ys := dragAxis c.isMinY ySlot target.y (a.y, b.y)
  .rectangle ⟨xs.1, ys.1⟩ ⟨xs.2, ys.2⟩

/-- The nearest place for the lower end of an extent that keeps it within the unit range; an extent
longer than that starts at zero. -/
def keepWithin (target extent : α) : α :=
  Scalar.greater (Scalar.lesser target (Scalar.greater (1 - extent) 0)) 0

/-- The geometry moved so that its box starts at a target, or as near to it as the surface allows.
-/
def dragMover (g : Geometry α) (target : Point α) (v : Viewport α) : Geometry α :=
  match g.bounds? v with
  | none => g
  | some b =>
    let start : Point α := ⟨keepWithin target.x b.width, keepWithin target.y b.height⟩
    (g.translate (start - b.min)).clamped

/-- The radius of a circle whose handle is dragged to a target, if the circle stays on the surface.
-/
def radiusAt? (center target : Point α) (v : Viewport α) : Option (Radius α) :=
  let candidate := Radius.between center target
  if v.fitsCircle center (candidate.effective v) then some candidate else none

/-- **The geometry after the pointer has been dragged to a point.** A pointer back at the place of
the grab restores the radius that was grabbed. -/
def apply (d : Drag α) (g : Geometry α) (p : Point α) (v : Viewport α) : Geometry α :=
  match d, g with
  | .corner c xSlot ySlot offset, .rectangle a b =>
    dragCorner c xSlot ySlot (p + offset).clamped a b
  | .vertex i offset, .polygon vertices => .polygon (vertices.set i (p + offset).clamped)
  | .radius offset origin grabbed, .circle center r =>
    .circle center (if p == origin then grabbed else (radiusAt? center (p + offset) v).getD r)
  | .mover offset, g => dragMover g (p + offset) v
  | _, g => g

/-- How far the pointer, dragged to a point, has run ahead of the handle of a circle; other drags
leave what was found before. -/
def blind (d : Drag α) (g : Geometry α) (p : Point α) (v : Viewport α) (before : Point α) :
    Point α :=
  match d, g with
  | .radius offset origin _, .circle center r =>
    if p == origin || (radiusAt? center (p + offset) v).isSome then .origin
    else (p + offset) - radiusHandle center (r.effective v) v
  | _, _ => before

end Drag

end ShapeOverlay
