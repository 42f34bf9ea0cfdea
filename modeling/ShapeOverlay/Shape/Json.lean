import ShapeOverlay.Json.Reader
import ShapeOverlay.Shape

/-!
# Shapes as JSON

A shape is written as one object that holds the fields of its geometry beside its own
(`Shape.toJson`). It is read from such an object (`Shape.ofJson?`) under these rules:

* color, width, kind and the fields that the kind calls for must be there, and none of the known
  fields may be repeated;
* identity, status and attached values may be missing, and a shape without an identity gets a fresh
  one;
* unknown fields are skipped, but everything in them must denote something;
* a point may be a list of its two coordinates, and a kind may be given by its number.
-/

namespace ShapeOverlay

/-! ### Parts -/

/-- The status of a JSON tree. -/
def Status.ofJson? (j : Json) : Option Status := j.word?.bind ofName?

/-- The kind of a JSON tree that stands alone. -/
def Kind.ofJson? (j : Json) : Option Kind := j.word?.bind ofName?

/-- The kind that the tag of an object gives by its name or its number. -/
def Kind.ofTag? : Json → Option Kind
  | .string s => s.bind ofName?
  | .number (some (.integer n _)) => if 0 ≤ n then all[n.toNat]? else none
  | _ => none

/-- The two coordinates of a JSON tree: an object with both of them, or a list of the two. -/
def Json.coordinates? : Json → Option (Float × Float)
  | array [x, y] => do
    let x ← x.float?
    let y ← y.float?
    some (x, y)
  | array _ => none
  | j => do
    let entries ← j.entries?
    let x ← field? entries "x" float?
    let y ← field? entries "y" float?
    some (x, y)

/-- Two coordinates as a JSON tree. -/
def Json.ofCoordinates (x y : Float) : Json := object [(some "x", ofFloat x), (some "y", ofFloat y)]

/-- The point of a JSON tree. -/
def Point.ofJson? (j : Json) : Option (Point Float) := j.coordinates?.map fun (x, y) => ⟨x, y⟩

/-- A point as a JSON tree. -/
def Point.toJson (p : Point Float) : Json := .ofCoordinates p.x p.y

/-- The radius of a JSON tree. -/
def Radius.ofJson? (j : Json) : Option (Radius Float) := j.coordinates?.map fun (x, y) => ⟨x, y⟩

/-- A radius as a JSON tree. -/
def Radius.toJson (r : Radius Float) : Json := .ofCoordinates r.x r.y

/-- The points of a list. -/
def Point.listOfJson? : Json → Option (List (Point Float))
  | .array items => items.mapM ofJson?
  | _ => none

/-! ### Geometries -/

namespace Geometry

/-- The geometry of a kind among the entries of an object. -/
def ofEntries? (entries : List (String × Json)) : Kind → Option (Geometry Float)
  | .rectangle => do
    match ← Json.field? entries "points" Point.listOfJson? with
    | [a, b] => some (rectangle a b)
    | _ => none
  | .polygon => (Json.field? entries "points" Point.listOfJson?).map polygon
  | .circle => do
    let center ← Json.field? entries "center" Point.ofJson?
    let radius ← Json.field? entries "radius" Radius.ofJson?
    some (circle center radius)

/-- The fields of a geometry, its kind first. -/
def toEntries : Geometry Float → List (Literal × Json)
  | rectangle a b =>
    [(some "type", .ofString Kind.rectangle.name), (some "points", .array [a.toJson, b.toJson])]
  | polygon vertices =>
    [(some "type", .ofString Kind.polygon.name),
      (some "points", .array (vertices.map Point.toJson))]
  | circle center radius =>
    [(some "type", .ofString Kind.circle.name), (some "center", center.toJson),
      (some "radius", radius.toJson)]

end Geometry

/-! ### Shapes -/

namespace Shape

/-- A shape as a JSON tree; attached values are left out if there are none. -/
def toJson (s : Shape Float) : Json :=
  .object
    ((some "id", .ofString s.id.text) :: s.geometry.toEntries ++
      [(some "lineColor", .ofString s.lineColor), (some "lineWidth", .ofFloat s.lineWidth),
        (some "status", .ofString s.status.name)] ++
      if s.props.isNull then [] else [(some "props", s.props.toJson)])

/-- The shape among the entries of an object. -/
def ofEntries? (fresh : Identifier) (entries : List (String × Json)) : Option (Shape Float) := do
  let id ← Json.fieldOr? entries "id" fresh fun j => j.text?.bind Identifier.ofText?
  let kind ← Json.field? entries "type" Kind.ofTag?
  let geometry ← Geometry.ofEntries? entries kind
  let lineColor ← Json.field? entries "lineColor" Json.text?
  let lineWidth ← Json.field? entries "lineWidth" Json.float?
  let status ← Json.fieldOr? entries "status" .active Status.ofJson?
  let props ← Json.fieldOr? entries "props" .null Value.ofJson?
  some { id, geometry, lineColor, lineWidth, status, props }

/-- **The shape of a JSON tree**, if it is one and everything in it denotes something. -/
def ofJson? (fresh : Identifier) (j : Json) : Option (Shape Float) := do
  let _ ← Value.ofJson? j
  let entries ← j.entries?
  ofEntries? fresh entries

/-- How deep the containers of the text of a shape may nest. -/
def deepestText : Nat := 127

/-- The shape of a JSON text. -/
def ofText? (fresh : Identifier) (text : String) : Option (Shape Float) :=
  (Json.ofTextWithin? deepestText text).bind (ofJson? fresh)

end Shape

end ShapeOverlay
