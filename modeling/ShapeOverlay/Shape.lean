import ShapeOverlay.Geometry
import ShapeOverlay.Identifier
import ShapeOverlay.Value

/-!
# Shapes

A `Shape` is a geometry with an identity, a style, a status and values that a host attaches to it.
Only an active shape takes part in hit-testing, and a hidden one is not even painted (`Status`).
-/

namespace ShapeOverlay

/-! ### Statuses -/

/-- Whether a shape is painted and whether it can be hit. Only an active one can be hit; a hidden
one is not painted, and an inactive one at half width. -/
inductive Status where
  | active
  | hidden
  | inactive
  deriving Repr, DecidableEq

namespace Status

/-- The name of a status. -/
def name : Status → String
  | active => "active"
  | hidden => "hidden"
  | inactive => "inactive"

/-- All statuses. -/
def all : List Status := [active, hidden, inactive]

/-- The status with a name. -/
def ofName? (s : String) : Option Status := all.find? (·.name == s)

theorem ofName?_name (s : Status) : ofName? s.name = some s := by
  cases s <;> decide

end Status

/-! ### Shapes -/

/-- The stroke color of a shape that is given no style. -/
def defaultLineColor : String := "#D94B4B"

/-- The stroke width in pixels of a shape that is given no style. -/
def defaultLineWidth : Float := 2.0

/-- A shape drawn over the surface. The width of its line is in pixels, and `props` is what a host
attaches to it, null until it attaches something. -/
structure Shape (α : Type) where
  id : Identifier
  geometry : Geometry α
  lineColor : String := defaultLineColor
  lineWidth : Float := defaultLineWidth
  status : Status := .active
  props : Value := .null

namespace Shape

variable {α : Type}

/-- The kind of the shape's geometry. -/
def kind (s : Shape α) : Kind := s.geometry.kind

/-- The shape can be hit. -/
def isActive (s : Shape α) : Bool := s.status == .active

/-- The shape is painted. -/
def isVisible (s : Shape α) : Bool := s.status != .hidden

/-- The shape with its geometry brought into the unit square. -/
def clamped [Scalar α] (s : Shape α) : Shape α := { s with geometry := s.geometry.clamped }

end Shape

end ShapeOverlay
