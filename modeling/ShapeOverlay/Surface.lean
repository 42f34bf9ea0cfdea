import ShapeOverlay.Plane.Bounds
import ShapeOverlay.Plane.Viewport

/-!
# Surfaces

A `Surface` has a pixel size and holds the primitives painted on it since it was last cleared. Each
call to it may fail, and which calls fail is part of the surface (`Surface.faults`): it may depend
on how many calls have been made before. A failing call changes nothing else.

* `Surface.draw`, `Surface.clear`, `Surface.resize`: single calls;
* `Surface.paint`: primitives drawn one after the other, up to the first failing call;
* `Surface.repaint`: the surface cleared and then painted.
-/

namespace ShapeOverlay

/-! ### Primitives -/

/-- The style of an outline. The width of the line and the length of the dashes, if it is dashed,
are in pixels. -/
structure Stroke where
  color : String
  width : Float
  dash : Option Float := none
  deriving DecidableEq

/-- What can be painted on a surface with one call, in pixels: a line through points, joined back to
the first one if `closed`, a circle, or a box filled with a color. -/
inductive Primitive (α : Type) where
  | path (points : List (Point α)) (closed : Bool) (stroke : Stroke)
  | circle (center : Point α) (radius : α) (stroke : Stroke)
  | fill (box : Bounds α) (color : String)
  deriving DecidableEq

/-! ### Calls and their failure -/

/-- A call that a surface can refuse. -/
inductive SurfaceCall where
  | resize
  | clear
  | strokePath
  | strokeCircle
  | fillRect
  deriving Repr, DecidableEq

/-- The reason why a call fails: there is nothing to paint on, or the call was refused. -/
inductive SurfaceError where
  | noContext
  | refused (call : SurfaceCall)
  deriving Repr, DecidableEq

namespace SurfaceCall

/-- The name of a call. -/
def name : SurfaceCall → String
  | resize => "resize"
  | clear => "clear"
  | strokePath => "stroke_path"
  | strokeCircle => "stroke_circle"
  | fillRect => "fill_rect"

/-- All calls. -/
def all : List SurfaceCall := [resize, clear, strokePath, strokeCircle, fillRect]

/-- The error with which a call fails. -/
def error : SurfaceCall → SurfaceError
  | clear => .noContext
  | call => .refused call

end SurfaceCall

/-- The wording of an error. -/
def SurfaceError.message : SurfaceError → String
  | noContext => "2d context unavailable"
  | refused call => "canvas call failed: " ++ call.name

/-- The call that paints a primitive. -/
def Primitive.call {α : Type} : Primitive α → SurfaceCall
  | path _ _ _ => .strokePath
  | circle _ _ _ => .strokeCircle
  | fill _ _ => .fillRect

/-! ### Surfaces -/

/-- What is painted, and how many pixels there are to paint on: the primitives painted since the
surface was last cleared or resized, in order, and how many calls have been made. `faults` says
which call fails, after so many calls before it. -/
structure Surface (α : Type) where
  viewport : Viewport α
  primitives : List (Primitive α) := []
  clears : Nat := 0
  calls : Nat := 0
  faults : Nat → SurfaceCall → Bool := fun _ _ => false

namespace Surface

variable {α : Type}

/-- Nothing is painted. -/
def isBlank (s : Surface α) : Bool := s.primitives.isEmpty

/-- The surface after a call with an effect, and the error if the call fails. -/
def attempt (s : Surface α) (call : SurfaceCall) (effect : Surface α → Surface α) :
    Surface α × Option SurfaceError :=
  let counted := { s with calls := s.calls + 1 }
  if s.faults s.calls call then (counted, some call.error) else (effect counted, none)

/-- The surface with another size; what was painted is gone. -/
def resize (s : Surface α) (v : Viewport α) : Surface α × Option SurfaceError :=
  s.attempt .resize fun s => { s with viewport := v, primitives := [] }

/-- The surface without what was painted. -/
def clear (s : Surface α) : Surface α × Option SurfaceError :=
  s.attempt .clear fun s => { s with primitives := [], clears := s.clears + 1 }

/-- The surface with one more primitive. -/
def draw (s : Surface α) (p : Primitive α) : Surface α × Option SurfaceError :=
  s.attempt p.call fun s => { s with primitives := s.primitives ++ [p] }

/-- **The surface with more primitives**, up to the first whose call fails. -/
def paint (s : Surface α) : List (Primitive α) → Surface α × Option SurfaceError
  | [] => (s, none)
  | p :: ps =>
    match s.draw p with
    | (s, none) => s.paint ps
    | (s, some error) => (s, some error)

/-- The surface cleared and then painted with what a picture shows at its size. -/
def repaint (s : Surface α) (picture : Viewport α → List (Primitive α)) :
    Surface α × Option SurfaceError :=
  match s.clear with
  | (s, none) => s.paint (picture s.viewport)
  | (s, some error) => (s, some error)

end Surface

end ShapeOverlay
