import ShapeOverlay.Editor

/-!
# Events

The pointer drives the session of an editor. An event carries the pixel of the foreground where it
happened, and it gives the editor after it and the actions that the host is to take note of.

* In detection a move looks for the shape under the pointer and a click selects it.
* While a shape is drawn, the events make up its draft, and the event that finishes it puts it into
  the list and ends the session.
* While a shape is edited, the events drag its parts, and a click beside them ends the session.
-/

namespace ShapeOverlay

/-- A button of the pointer; the primary one draws, drags and clicks. -/
inductive Button where
  | primary
  | middle
  | secondary
  deriving Repr, DecidableEq

namespace Editor

/-- The relative point of a pixel of the foreground. -/
def pointAt (e : Editor) (pixel : Point Float) : Point Float :=
  e.foreground.viewport.toRelative pixel

/-! ### Detection -/

/-- The action that tells which shape is hovered. -/
def hoveredAction (e : Editor) : List Action :=
  match e.hovered? with
  | none => []
  | some i => ((e.store.get? i).map fun shape => Action.hovered i shape.id).toList

/-- The editor after a move in detection. -/
def detectMove (e : Editor) (d : Detection) (p : Point Float) : Editor × List Action :=
  let d := d.pointerMove e.store.shapes p e.foreground.viewport
  let e := { e with session := .detection d, highlighted := none }.paintForeground
  let (e, actions) := e.setCursor (if d.selected.isSome then .pointer else .default)
  (e, actions ++ e.hoveredAction)

/-- The editor after a click in detection. -/
def detectClick (e : Editor) (d : Detection) : Editor × List Action :=
  match d.click.bind fun i => (e.store.get? i).map (i, ·) with
  | some (i, shape) => (e.note .shapeSelected, [.selected i shape.id])
  | none => (e, [])

/-! ### Drawing -/

/-- The editor after a shape was finished: the shape is in the list and the session is over. -/
def commit (e : Editor) (shape : Shape Float) : Editor × List Action :=
  match e.store.push shape with
  | none => (e.note .shapeRefused, [])
  | some store =>
    let (next, actions) := ({ e with store }.paintBackground.note .shapeCreated).rest
    (next, .created e.store.size shape.clamped :: actions)

/-- The editor after an event while a shape is drawn. -/
def drawEvent (e : Editor) (outcome : DrawingStep Float × Drawing Float) : Editor × List Action :=
  let e := { e with session := .drawing outcome.2 }
  match outcome.1 with
  | .ignored => (e, [])
  | .preview => (e.paintForeground, [])
  | .commit shape => { e with ids := e.ids.advance }.commit shape

/-! ### Editing -/

/-- The cursor over the shape that is edited. -/
def editCursor (e : Editor) (shape : Shape Float) (p : Point Float) : Cursor :=
  shape.geometry.cursorAt p e.foreground.viewport e.theme.handleRadius

/-- The editor after a press while a shape is edited. -/
def editDown (e : Editor) (s : Editing Float) (shape : Shape Float) (p : Point Float) :
    Editor × List Action :=
  let (step, s) := s.pointerDown shape.geometry p e.foreground.viewport e.theme.handleRadius
  let e := { e with session := .editing s }
  match step with
  | .grabbed .mover => e.setCursor .move
  | .grabbed (.handle _) => e.setCursor .grab
  | _ => (e, [])

/-- The editor after a move while a shape is edited. -/
def editMove (e : Editor) (s : Editing Float) (i : Nat) (shape : Shape Float) (p : Point Float) :
    Editor × List Action :=
  if s.isDragging then
    let (step, geometry, s) := s.pointerMove shape.geometry p e.foreground.viewport
    let shape := { shape with geometry }
    let e := { e with session := .editing s, store := e.store.modify i fun _ => shape }
    if step = .changed then (e.paintBackground.paintForeground, [.edited i shape]) else (e, [])
  else e.setCursor (e.editCursor shape p)

/-- The editor after a release while a shape is edited. -/
def editUp (e : Editor) (s : Editing Float) (shape : Shape Float) (p : Point Float) :
    Editor × List Action :=
  let (step, s) := s.pointerUp
  let e := { e with session := .editing s }
  if step = .released then e.setCursor (e.editCursor shape p) else (e, [])

/-- The editor after a click while a shape is edited. -/
def editClick (e : Editor) (s : Editing Float) (i : Nat) (shape : Shape Float) (p : Point Float) :
    Editor × List Action :=
  let (step, s) := s.click shape.geometry p e.foreground.viewport e.theme.handleRadius
  let e := { e with session := .editing s }
  if step = .finished then
    let (e, actions) := (e.note .editFinished).rest
    (e, .edited i shape :: .finished i shape.id :: actions)
  else (e, [])

/-- The editor after an event that needs the shape that is edited; without it the session ends. -/
def editEvent (e : Editor) (event : Nat → Shape Float → Editor × List Action) :
    Editor × List Action :=
  match e.editTarget? with
  | some (i, shape) => event i shape
  | none => e.endLostEdit

/-! ### Events -/

/-- The editor after a press. -/
def pointerDown (e : Editor) (pixel : Point Float) (button : Button) : Editor × List Action :=
  if button = .primary then
    match e.session with
    | .drawing d => e.drawEvent (d.pointerDown (e.pointAt pixel))
    | .editing s => e.editEvent fun _ shape => e.editDown s shape (e.pointAt pixel)
    | .idle | .detection _ => (e, [])
  else (e, [])

/-- The editor after a move. -/
def pointerMove (e : Editor) (pixel : Point Float) : Editor × List Action :=
  match e.session with
  | .detection d => e.detectMove d (e.pointAt pixel)
  | .drawing d => e.drawEvent (d.pointerMove (e.pointAt pixel) e.foreground.viewport)
  | .editing s => e.editEvent fun i shape => e.editMove s i shape (e.pointAt pixel)
  | .idle => (e, [])

/-- The editor after a release. -/
def pointerUp (e : Editor) (pixel : Point Float) (button : Button) : Editor × List Action :=
  if button = .primary then
    match e.session with
    | .drawing d => e.drawEvent (d.pointerUp (e.pointAt pixel) e.foreground.viewport e.ids.next)
    | .editing s => e.editEvent fun _ shape => e.editUp s shape (e.pointAt pixel)
    | .idle | .detection _ => (e, [])
  else (e, [])

/-- The editor after a click. -/
def click (e : Editor) (pixel : Point Float) : Editor × List Action :=
  match e.session with
  | .detection d => e.detectClick d
  | .editing s => e.editEvent fun i shape => e.editClick s i shape (e.pointAt pixel)
  | .idle | .drawing _ => (e, [])

/-- The editor after a double click. -/
def doubleClick (e : Editor) : Editor × List Action :=
  match e.session with
  | .drawing d => e.drawEvent (d.doubleClick e.ids.next)
  | .idle | .detection _ | .editing _ => (e, [])

end Editor

end ShapeOverlay
