import ShapeOverlay.Shape

/-!
# Drawing

A `Drawing` turns pointer events into one new shape. A rectangle or a circle is dragged out between
a press and its release; a polygon is clicked vertex by vertex, where each release fixes the vertex
that follows the pointer and a double click finishes. A shape without extent is not committed, and
the session goes on.

* `Drawing.draft?`: the geometry as far as it has been drawn;
* `Drawing.isCommittable`: the draft has an extent;
* `Drawing.pointerDown`, `Drawing.pointerMove`, `Drawing.pointerUp`, `Drawing.doubleClick`: the
  outcome of an event and the session after it. Those that can finish a shape take the identity that
  it gets.
-/

namespace ShapeOverlay

/-- What is to be drawn, and in which style. The width of the line is in pixels. -/
structure DrawingOptions where
  kind : Kind
  lineColor : String := defaultLineColor
  lineWidth : Float := defaultLineWidth

/-- The outcome of an event while a shape is drawn: it is without effect, the draft may have changed
and has to be painted, or the shape is finished. -/
inductive DrawingStep (α : Type) where
  | ignored
  | preview
  | commit (shape : Shape α)

/-- A session in which one shape is drawn. The points of its draft are corners, vertices or the
centre, and `appendNext` says that the next move adds a vertex to a polygon instead of moving the
last one. -/
structure Drawing (α : Type) where
  options : DrawingOptions
  points : List (Point α) := []
  radius : Radius α
  appendNext : Bool := false

namespace Drawing

variable {α : Type} [Scalar α]

/-- The session before the first press. -/
def start (options : DrawingOptions) : Drawing α := { options, radius := .zero }

/-! ### The draft -/

/-- The first point has been placed. -/
def isStarted (d : Drawing α) : Bool := !d.points.isEmpty

/-- The geometry as far as it has been drawn, if there is anything to show. -/
def draft? (d : Drawing α) : Option (Geometry α) :=
  match d.options.kind, d.points with
  | .rectangle, [a, b] => some (.rectangle a b)
  | .rectangle, _ => none
  | .polygon, points => if 2 ≤ points.length then some (.polygon points) else none
  | .circle, center :: _ => some (.circle center d.radius)
  | .circle, [] => none

/-- The draft can become a shape: the corners of a rectangle differ along both axes, a polygon has
three vertices or more, and a circle has a radius. -/
def isCommittable (d : Drawing α) : Bool :=
  match d.options.kind, d.points with
  | .rectangle, [a, b] => a.x != b.x && a.y != b.y
  | .rectangle, _ => false
  | .polygon, points => 3 ≤ points.length
  | .circle, points => !points.isEmpty && !d.radius.isZero

/-- The draft as a shape with the given identity, if it can become one. -/
def finish (d : Drawing α) (id : Identifier) : DrawingStep α :=
  if d.isCommittable then
    match d.draft? with
    | some geometry =>
      .commit { id, geometry, lineColor := d.options.lineColor, lineWidth := d.options.lineWidth }
    | none => .ignored
  else .ignored

/-! ### Changes of the draft -/

/-- The second point of a rectangle set. -/
def setSecond (d : Drawing α) (p : Point α) : Drawing α :=
  { d with points := d.points.take 1 ++ [p] }

/-- The last vertex of a polygon moved. -/
def setLast (d : Drawing α) (p : Point α) : Drawing α :=
  { d with points := d.points.dropLast ++ [p] }

/-- The vertex that follows the pointer moved, or added if the one before it has been fixed. -/
def setLive (d : Drawing α) (p : Point α) : Drawing α :=
  if d.appendNext then { d with points := d.points ++ [p], appendNext := false } else d.setLast p

/-- The radius set so that a circle reaches a point; none if the circle leaves the surface. -/
def setEdge? (d : Drawing α) (p : Point α) (v : Viewport α) : Option (Drawing α) :=
  match d.points with
  | [] => none
  | center :: _ =>
    let radius := Radius.between center p
    if v.fitsCircle center (radius.effective v) then some { d with radius } else none

/-- The last vertex of a polygon dropped if it equals the one before it. -/
def dropRepeated (d : Drawing α) : Drawing α :=
  match d.points.reverse with
  | b :: a :: _ => if a == b then { d with points := d.points.dropLast } else d
  | _ => d

/-! ### Events -/

/-- The pointer is pressed: the first press places the first point. -/
def pointerDown (d : Drawing α) (p : Point α) : DrawingStep α × Drawing α :=
  if d.isStarted then (.ignored, d) else (.preview, { d with points := [p], appendNext := true })

/-- The pointer moves: the draft follows it. -/
def pointerMove (d : Drawing α) (p : Point α) (v : Viewport α) : DrawingStep α × Drawing α :=
  if d.isStarted then
    match d.options.kind with
    | .rectangle => (.preview, d.setSecond p)
    | .polygon => (.preview, d.setLive p)
    | .circle =>
      match d.setEdge? p v with
      | some d => (.preview, d)
      | none => (.ignored, d)
  else (.ignored, d)

/-- The pointer is released: a rectangle or a circle is finished, and the vertex of a polygon that
follows the pointer is fixed. -/
def pointerUp (d : Drawing α) (p : Point α) (v : Viewport α) (id : Identifier) :
    DrawingStep α × Drawing α :=
  if d.isStarted then
    match d.options.kind with
    | .rectangle => let d := d.setSecond p; (d.finish id, d)
    | .circle => let d := (d.setEdge? p v).getD d; (d.finish id, d)
    | .polygon =>
      let d := if !d.appendNext && 1 < d.points.length then d.setLast p else d
      (.preview, { d with appendNext := true })
  else (.ignored, d)

/-- A double click finishes a polygon. A last vertex that repeats the one before it is dropped. -/
def doubleClick (d : Drawing α) (id : Identifier) : DrawingStep α × Drawing α :=
  match d.options.kind with
  | .polygon => let d := d.dropRepeated; (d.finish id, d)
  | _ => (.ignored, d)

end Drawing

end ShapeOverlay
