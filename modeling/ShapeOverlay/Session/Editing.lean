import ShapeOverlay.Identifier
import ShapeOverlay.Session.Drag

/-!
# Editing

An `Editing` reshapes one shape by drags of its handles and its mover: a press grabs the part under
the pointer, moves drag it and a release ends the drag. A click that hits no part finishes the
session, unless it is the one that ends a drag.

* `Editing.pointerDown`, `Editing.pointerUp`, `Editing.click`: the outcome of an event and the
  session after it;
* `Editing.pointerMove`: the same, with the geometry after the move.
-/

namespace ShapeOverlay

variable {α : Type} [Scalar α]

/-- The outcome of an event while a shape is edited: it is without effect on the shape, a part was
grabbed, the geometry changed, the grabbed part was released, or the session is over. -/
inductive EditingStep where
  | ignored
  | grabbed (part : EditPart)
  | changed
  | released
  | finished
  deriving Repr, DecidableEq

/-- A session in which the shape with an identity is edited. `moved` says that the drag under way
has changed the shape, `swallowClick` that the next click ends a drag that did, and `blind` how far
the pointer has run ahead of the handle of a circle. -/
structure Editing (α : Type) where
  target : Identifier
  drag : Option (Drag α) := none
  moved : Bool := false
  swallowClick : Bool := false
  blind : Point α

namespace Editing

/-- The session before the first event. -/
def start (target : Identifier) : Editing α := { target, blind := .origin }

/-- A drag is under way. -/
def isDragging (e : Editing α) : Bool := e.drag.isSome

/-- The pointer is pressed: the part under it is grabbed. -/
def pointerDown (e : Editing α) (g : Geometry α) (p : Point α) (v : Viewport α) (slop : α) :
    EditingStep × Editing α :=
  match g.hitPart? p v slop with
  | none => (.ignored, e)
  | some part =>
    match Drag.ofPart? g part p v with
    | none => (.ignored, e)
    | some drag => (.grabbed part, { e with drag := some drag, moved := false, blind := .origin })

/-- The pointer moves: the grabbed part follows it. The geometry is given back with the session. -/
def pointerMove (e : Editing α) (g : Geometry α) (p : Point α) (v : Viewport α) :
    EditingStep × Geometry α × Editing α :=
  match e.drag with
  | none => (.ignored, g, e)
  | some drag =>
    let g' := drag.apply g p v
    let e := { e with blind := drag.blind g p v e.blind }
    if g' == g then (.ignored, g', e) else (.changed, g', { e with moved := true })

/-- The pointer is released: the drag ends. -/
def pointerUp (e : Editing α) : EditingStep × Editing α :=
  match e.drag with
  | none => (.ignored, e)
  | some _ => (.released, { e with drag := none, moved := false, swallowClick := e.moved })

/-- A click that hits no part of the geometry finishes the session. The click that ends a drag is
without effect. -/
def click (e : Editing α) (g : Geometry α) (p : Point α) (v : Viewport α) (slop : α) :
    EditingStep × Editing α :=
  if e.swallowClick then (.ignored, { e with swallowClick := false })
  else
    match g.hitPart? p v slop with
    | some _ => (.ignored, e)
    | none => (.finished, e)

end Editing

end ShapeOverlay
