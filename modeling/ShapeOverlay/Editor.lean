import ShapeOverlay.Editor.Notice
import ShapeOverlay.Editor.Scene

/-!
# Editors

An `Editor` is a scene on two surfaces of one size, the shapes on the background and what is shown
over them on the foreground, with a journal of what happened. A surface that fails leaves a notice
in the journal and has no other effect.

This module holds what operations and events share:

* `Editor.paintBackground`, `Editor.paintForeground`: a surface brought up to date with the scene;
* `Editor.switchTo`: the session ended and another one begun;
* `Editor.afterListChange`: session and surfaces brought in line with a changed list.
-/

namespace ShapeOverlay

/-! ### Actions -/

/-- What an event asks the host to take note of: a shape that was found under the pointer, selected
by a click, drawn, changed or not edited any longer, or another cursor. -/
inductive Action where
  | hovered (index : Nat) (id : Identifier)
  | selected (index : Nat) (id : Identifier)
  | created (index : Nat) (shape : Shape Float)
  | edited (index : Nat) (shape : Shape Float)
  | finished (index : Nat) (id : Identifier)
  | cursor (c : Cursor)

/-! ### Editors -/

/-- A scene on two surfaces: the shapes on the background, and what is shown over them on the
foreground. The journal tells what happened, in order. -/
structure Editor extends Scene where
  background : Surface Float
  foreground : Surface Float
  journal : List Notice := []

namespace Editor

/-- An editor without shapes. -/
def start (background foreground : Surface Float) (theme : Theme) (ids : IdSupply) : Editor :=
  { theme, ids, background, foreground }

/-! ### The journal -/

/-- The editor with a notice in its journal. -/
def note (e : Editor) (n : Notice) : Editor := { e with journal := e.journal ++ [n] }

/-- The editor with a notice in its journal if a call failed. -/
def report (e : Editor) (error : Option SurfaceError) : Editor :=
  if error.isSome then e.note .renderFailed else e

@[simp] theorem toScene_note (e : Editor) (n : Notice) : (e.note n).toScene = e.toScene := rfl

@[simp] theorem background_note (e : Editor) (n : Notice) :
    (e.note n).background = e.background := rfl

@[simp] theorem foreground_note (e : Editor) (n : Notice) :
    (e.note n).foreground = e.foreground := rfl

@[simp] theorem toScene_report (e : Editor) (error : Option SurfaceError) :
    (e.report error).toScene = e.toScene := by
  unfold report
  split <;> rfl

@[simp] theorem background_report (e : Editor) (error : Option SurfaceError) :
    (e.report error).background = e.background := by
  unfold report
  split <;> rfl

@[simp] theorem foreground_report (e : Editor) (error : Option SurfaceError) :
    (e.report error).foreground = e.foreground := by
  unfold report
  split <;> rfl

/-! ### Painting -/

/-- The editor with its background painted anew. -/
def paintBackground (e : Editor) : Editor :=
  let (surface, error) := e.background.repaint e.backgroundPicture
  { e with background := surface }.report error

/-- The editor with its foreground painted anew. -/
def paintForeground (e : Editor) : Editor :=
  let (surface, error) := e.foreground.repaint e.foregroundPicture
  { e with foreground := surface }.report error

@[simp] theorem toScene_paintBackground (e : Editor) : e.paintBackground.toScene = e.toScene := by
  simp [paintBackground]

@[simp] theorem background_paintBackground (e : Editor) :
    e.paintBackground.background = (e.background.repaint e.backgroundPicture).1 := by
  simp [paintBackground]

@[simp] theorem foreground_paintBackground (e : Editor) :
    e.paintBackground.foreground = e.foreground := by
  simp [paintBackground]

@[simp] theorem toScene_paintForeground (e : Editor) : e.paintForeground.toScene = e.toScene := by
  simp [paintForeground]

@[simp] theorem background_paintForeground (e : Editor) :
    e.paintForeground.background = e.background := by
  simp [paintForeground]

@[simp] theorem foreground_paintForeground (e : Editor) :
    e.paintForeground.foreground = (e.foreground.repaint e.foregroundPicture).1 := by
  simp [paintForeground]

/-! ### Switching -/

/-- The editor with a cursor, and an action if that is another one than before. -/
def setCursor (e : Editor) (c : Cursor) : Editor × List Action :=
  if e.cursor = c then (e, []) else ({ e with cursor := c }, [.cursor c])

/-- The editor with its session ended and another one begun. -/
def switchTo (e : Editor) (next : Session) : Editor × List Action :=
  (({ e with session := next, highlighted := none }.note .modeSwitched).paintForeground).setCursor
    next.firstCursor

/-- The editor with its session ended and nothing drawn or edited. -/
def rest (e : Editor) : Editor × List Action := e.switchTo e.restingSession

/-- The editor after the shape that was being edited got lost. -/
def endLostEdit (e : Editor) : Editor × List Action := (e.note .targetLost).rest

/-! ### Changes of the list -/

/-- The editor with the highlight on request dropped if its shape is not in the list any more. -/
def dropLostHighlight (e : Editor) : Editor :=
  { e with highlighted := e.highlighted.filter fun id => (e.store.indexOf? id).isSome }

/-- The editor with the session brought in line with a changed list. Detection begins and ends as
the list gets its first shape and loses its last, and otherwise forgets what it found; a lost edit
ends. -/
def adjustSession (e : Editor) : Editor :=
  match e.session with
  | .idle => if e.store.isEmpty then e.paintForeground else (e.switchTo (.detection {})).1
  | .detection d =>
    if e.store.isEmpty then (e.switchTo .idle).1
    else { e with session := .detection d.reset }.paintForeground
  | .drawing _ => e.paintForeground
  | .editing _ => if e.editTarget?.isSome then e.paintForeground else e.endLostEdit.1

/-- **The editor brought in line with a changed list.** -/
def afterListChange (e : Editor) : Editor := e.paintBackground.dropLostHighlight.adjustSession

end Editor

end ShapeOverlay
