import ShapeOverlay.Picture
import ShapeOverlay.Session.Detection
import ShapeOverlay.Session.Drawing
import ShapeOverlay.Session.Editing

/-!
# Scenes

A `Scene` is all that an editor knows apart from its surfaces: the list of shapes, the session that
the pointer drives, a shape highlighted on request and the cursor. There is one session at a time,
or none while there is nothing to detect (`Session`).

What is shown follows from the scene: the shapes on the background (`Scene.backgroundPicture`), and
over them the highlights and what the session shows (`Scene.foregroundPicture`).
-/

namespace ShapeOverlay

/-! ### Sessions and modes -/

/-- The session that the pointer drives: there is nothing to detect, or the shape under the pointer
is sought, or a shape is drawn or edited. -/
inductive Session where
  | idle
  | detection (d : Detection)
  | drawing (d : Drawing Float)
  | editing (e : Editing Float)

/-- The kind of a session. -/
inductive Mode where
  | idle
  | detect
  | draw
  | edit
  deriving Repr, DecidableEq

/-- The name of a mode. -/
def Mode.name : Mode → String
  | idle => "idle"
  | detect => "detect"
  | draw => "draw"
  | edit => "edit"

/-- All modes. -/
def Mode.all : List Mode := [idle, detect, draw, edit]

namespace Session

/-- The mode of a session. -/
def mode : Session → Mode
  | idle => .idle
  | detection _ => .detect
  | drawing _ => .draw
  | editing _ => .edit

/-- The cursor with which a session begins. -/
def firstCursor : Session → Cursor
  | drawing _ => .crosshair
  | _ => .default

end Session

/-! ### Scenes -/

/-- What an editor knows apart from its surfaces. `highlighted` is the identity of a shape that is
highlighted on request, and `ids` holds the identities for shapes that are drawn. -/
structure Scene where
  theme : Theme
  store : Store Float := .empty
  session : Session := .idle
  highlighted : Option Identifier := none
  cursor : Cursor := .default
  ids : IdSupply

namespace Scene

/-- The mode of the session. -/
def mode (s : Scene) : Mode := s.session.mode

/-- The place of the shape that detection has found. -/
def hovered? (s : Scene) : Option Nat :=
  match s.session with
  | .detection d => d.selected
  | _ => none

/-- The identity of the shape that is edited. -/
def editing? (s : Scene) : Option Identifier :=
  match s.session with
  | .editing e => some e.target
  | _ => none

/-- The session in which nothing is drawn or edited. -/
def restingSession (s : Scene) : Session := if s.store.isEmpty then .idle else .detection {}

/-- The first shape with an identity, behind its place, if it is active. -/
def activeShape? (s : Scene) (id : Identifier) : Option (Nat × Shape Float) := do
  let i ← s.store.indexOf? id
  let shape ← s.store.get? i
  if shape.isActive then some (i, shape) else none

/-- The shape that is edited, behind its place, if it can still be edited. -/
def editTarget? (s : Scene) : Option (Nat × Shape Float) := s.editing?.bind s.activeShape?

/-! ### Pictures -/

/-- What is shown on the background: the shapes. -/
def backgroundPicture (s : Scene) (v : Viewport Float) : List (Primitive Float) := s.store.picture v

/-- The highlight of a shape, if there is one. -/
def highlightPicture (s : Scene) (shape : Option (Shape Float)) (v : Viewport Float) :
    List (Primitive Float) :=
  shape.elim [] (·.highlight s.theme v)

/-- What the session shows: the highlight of the shape under the pointer, the draft of the shape
that is drawn, or the handles of the shape that is edited. -/
def sessionPicture (s : Scene) (v : Viewport Float) : List (Primitive Float) :=
  match s.session with
  | .idle => []
  | .detection d => s.highlightPicture (d.selected.bind s.store.get?) v
  | .drawing d =>
    d.draft?.elim [] fun g => g.preview d.options.lineColor d.options.lineWidth s.theme v
  | .editing e =>
    ((s.store.lookup e.target).bind (·.geometry.overlay? v)).elim [] (·.picture s.theme)

/-- What is shown on the foreground: the highlight on request, and what the session shows. -/
def foregroundPicture (s : Scene) (v : Viewport Float) : List (Primitive Float) :=
  s.highlightPicture (s.highlighted.bind s.store.lookup) v ++ s.sessionPicture v

end Scene

end ShapeOverlay
