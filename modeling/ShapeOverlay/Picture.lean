import ShapeOverlay.Handle
import ShapeOverlay.Scalar.Binary64
import ShapeOverlay.Store
import ShapeOverlay.Surface
import ShapeOverlay.Theme

/-!
# Pictures

A picture is the list of primitives that show something on a surface of a given size. Geometries are
kept in relative coordinates, so their pictures are worked out for a viewport; pictures change
nothing but what is painted.

* `Store.picture`: every visible shape in its own style, one primitive each, in the order of the
  list;
* `Shape.highlight`: a visible shape in the style of the highlight;
* `Geometry.preview`: a geometry that is being drawn, with a dashed outline;
* `Overlay.picture`: the mover and the handles of a shape that is edited.
-/

namespace ShapeOverlay

variable {α : Type} [Scalar α]

/-! ### Geometries and shapes -/

/-- The outline of a geometry. The path of a polygon can be left open. -/
def Geometry.outline (g : Geometry α) (stroke : Stroke) (isOpen : Bool) (v : Viewport α) :
    Primitive α :=
  match g with
  | rectangle a b => .path ((Bounds.ofCorners a b).corners.map v.toPixels) true stroke
  | polygon vertices => .path (vertices.map v.toPixels) (!isOpen) stroke
  | circle center radius => .circle (v.toPixels center) (radius.effective v) stroke

namespace Shape

/-- The style of a shape's outline; the line is half as wide while the shape is inactive. -/
def stroke (s : Shape α) : Stroke where
  color := s.lineColor
  width := match s.status with
    | .inactive => s.lineWidth / 2
    | .active | .hidden => s.lineWidth

/-- A shape in a style; a hidden one is not shown. -/
def pictureIn (s : Shape α) (stroke : Stroke) (isOpen : Bool) (v : Viewport α) :
    List (Primitive α) :=
  if s.isVisible then [s.geometry.outline stroke isOpen v] else []

/-- A shape in its own style. The path of a polygon can be left open. -/
def picture (s : Shape α) (isOpen : Bool) (v : Viewport α) : List (Primitive α) :=
  s.pictureIn s.stroke isOpen v

/-- A shape in the style of the highlight. -/
def highlight (s : Shape α) (theme : Theme) (v : Viewport α) : List (Primitive α) :=
  s.pictureIn { color := theme.highlightColor, width := theme.highlightWidth } false v

end Shape

/-- All shapes of a list in their own styles. -/
def shapesPicture (shapes : List (Shape α)) (v : Viewport α) : List (Primitive α) :=
  shapes.flatMap (·.picture false v)

/-- **One outline for each shape that is not hidden**, in the order of the list and in the shape's
own color and width, half as wide for an inactive shape. -/
theorem shapesPicture_eq (v : Viewport α) : ∀ shapes : List (Shape α),
    shapesPicture shapes v = (shapes.filter (·.status ≠ .hidden)).map fun s =>
      s.geometry.outline
        { color := s.lineColor
          width := if s.status = .inactive then s.lineWidth / 2 else s.lineWidth } false v
  | [] => rfl
  | s :: shapes => by
    have hcons : shapesPicture (s :: shapes) v = s.picture false v ++ shapesPicture shapes v := rfl
    rw [hcons, shapesPicture_eq v shapes]
    rcases hstatus : s.status <;>
      simp [hstatus, Shape.picture, Shape.pictureIn, Shape.isVisible, Shape.stroke]

/-- All shapes of a store in their own styles. -/
def Store.picture (s : Store α) (v : Viewport α) : List (Primitive α) := shapesPicture s.shapes v

/-! ### What is painted over the shapes -/

/-- A geometry that is being drawn: dashed, and open if it is a polygon. -/
def Geometry.preview (g : Geometry α) (color : String) (width : Float) (theme : Theme)
    (v : Viewport α) : List (Primitive α) :=
  [g.outline { color, width, dash := some theme.previewDash } true v]

/-- The square of a handle. -/
def handleSquare (theme : Theme) (center : Point Float) : Bounds Float :=
  .around center theme.handleRadius theme.handleRadius

/-- A handle: a filled square and its outline. -/
def handlePicture (theme : Theme) (center : Point Float) : List (Primitive Float) :=
  let square := handleSquare theme center
  [.fill square theme.handleFill,
    .path square.corners true { color := theme.handleStroke, width := 1 }]

/-- The mover and then the handles in order. -/
def Overlay.picture (o : Overlay Float) (theme : Theme) : List (Primitive Float) :=
  .fill o.mover theme.moverFill :: o.handles.flatMap (handlePicture theme)

end ShapeOverlay
