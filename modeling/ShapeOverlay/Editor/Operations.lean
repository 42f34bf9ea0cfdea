import ShapeOverlay.Editor

/-!
# Operations on editors

A host puts shapes into the list of an editor, changes them and takes them out, switches the mode,
highlights shapes and changes the size of the surfaces. Each operation gives the editor after it
and, where there is one, its result.

* `Editor.init`, `Editor.reinit`, `Editor.addShape`, `Editor.addShapes`: shapes are put in;
* `Editor.setStatus`, `Editor.setAttribute`, `Editor.delete`: shapes are changed and taken out;
* `Editor.setMode`, `Editor.highlight`, `Editor.unhighlight`: the session and the highlight;
* `Editor.redraw`, `Editor.resize`: the surfaces.
-/

namespace ShapeOverlay

/-! ### Requests -/

/-- Which shape is to be edited: the one at a place, or the first one with an identity. -/
inductive EditTarget where
  | index (i : Nat)
  | id (id : Identifier)

/-- Which mode is asked for. -/
inductive ModeRequest where
  | detect
  | draw (options : DrawingOptions)
  | edit (target : EditTarget)

namespace Editor

/-! ### Putting shapes in -/

/-- The editor with shapes put into its list, and their places; a notice is left for each shape that
was refused. -/
def pushAll (e : Editor) (shapes : List (Shape Float)) : Editor × List Nat :=
  let (store, places) := e.store.pushAll shapes
  let refused := places.filter Option.isNone
  ({ e with store, journal := e.journal ++ refused.map fun _ => .shapeRefused },
    places.filterMap id)

/-- The editor with its list replaced and nothing left of what was before. -/
def reset (e : Editor) (shapes : List (Shape Float)) : Editor :=
  let e := { e with store := .empty, session := .idle, highlighted := none }
  ((e.pushAll shapes).1.paintBackground.rest).1

/-- The editor with its first shapes. -/
def init (e : Editor) (shapes : List (Shape Float)) : Editor := (e.reset shapes).note .initialized

/-- The editor with its list replaced. -/
def reinit (e : Editor) (shapes : List (Shape Float)) : Editor :=
  (e.reset shapes).note .shapesReplaced

/-- The editor with one more shape, and its place if it was accepted. -/
def addShape (e : Editor) (shape : Shape Float) : Editor × Option Nat :=
  match e.store.push shape with
  | some store => (({ e with store }.note .shapeAdded).afterListChange, some e.store.size)
  | none => (e.note .shapeRefused, none)

/-- The editor with more shapes, and the places of those that were accepted. -/
def addShapes (e : Editor) (shapes : List (Shape Float)) : Editor × List Nat :=
  let (e, places) := e.pushAll shapes
  ((e.note .shapesAdded).afterListChange, places)

/-! ### Changing shapes and taking them out -/

/-- The editor with the status of the picked out shapes set, and their number. -/
def setStatus (e : Editor) (status : Status) (selector : Selector) : Editor × Nat :=
  let places := e.store.select selector
  let store := e.store.update places fun shape => { shape with status }
  (({ e with store }.note .statusUpdated).afterListChange, places.length)

/-- The editor with an attribute of the picked out shapes written where it can be, and the number of
shapes where it could; a notice is left for each shape where it could not. -/
def setAttribute (e : Editor) (name : String) (value : Value) (selector : Selector) :
    Editor × Nat :=
  let (written, refused) := (e.store.select selector).partition fun i =>
    (e.store.get? i).any fun shape => (shape.setAttribute name value).isOk
  let store := e.store.update written fun shape => shape.withAttribute name value
  let journal := e.journal ++ refused.map fun _ => .attributeRefused
  (({ e with store, journal }.note .attributeUpdated).afterListChange, written.length)

/-- The editor without the picked out shapes, and these. -/
def delete (e : Editor) (selector : Selector) : Editor × List (Shape Float) :=
  let (removed, store) := e.store.remove selector
  let e := { e with store }
  let e := if removed.isEmpty then e else e.note .shapesDeleted
  (e.afterListChange, removed)

/-! ### Modes and highlights -/

/-- The identity of the shape that is to be edited, if it is there and active. -/
def resolve (e : Editor) (target : EditTarget) : Option Identifier := do
  let shape ← match target with
    | .index i => e.store.get? i
    | .id id => e.store.lookup id
  if shape.isActive then some shape.id else none

/-- The editor in another mode, and whether it could be entered. -/
def setMode (e : Editor) (request : ModeRequest) : Editor × Bool :=
  match request with
  | .detect => (e.rest.1, true)
  | .draw options => ((e.switchTo (.drawing (.start options))).1, true)
  | .edit target =>
    match e.resolve target with
    | some id => ((e.switchTo (.editing (.start id))).1, true)
    | none => (e.note .targetUnavailable, false)

/-- The editor with the shape at a place highlighted, and whether there is one. -/
def highlight (e : Editor) (i : Nat) : Editor × Bool :=
  match e.store.get? i with
  | some shape => ({ e with highlighted := some shape.id }.paintForeground, true)
  | none => (e.note .highlightOutOfRange, false)

/-- The editor without any highlight. -/
def unhighlight (e : Editor) : Editor :=
  let session := match e.session with
    | .detection d => .detection d.reset
    | session => session
  { e with highlighted := none, session }.paintForeground

/-! ### Surfaces -/

/-- The editor with its background painted anew. Unless the session is to be kept, it ends. -/
def redraw (e : Editor) (keep : Bool) : Editor :=
  let e := e.paintBackground
  if keep then e.paintForeground else e.rest.1

/-- The editor with its background given another size. -/
def resizeBackground (e : Editor) (v : Viewport Float) : Editor :=
  let (surface, error) := e.background.resize v
  { e with background := surface }.report error

/-- The editor with its foreground given another size. -/
def resizeForeground (e : Editor) (v : Viewport Float) : Editor :=
  let (surface, error) := e.foreground.resize v
  { e with foreground := surface }.report error

/-- The editor with its surfaces given another size. -/
def resize (e : Editor) (v : Viewport Float) : Editor :=
  let e := ((e.resizeBackground v).resizeForeground v).note .viewportResized
  e.paintBackground.paintForeground

end Editor

end ShapeOverlay
