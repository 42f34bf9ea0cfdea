import ShapeOverlay.Editor.Events
import ShapeOverlay.Editor.Operations

/-!
# Runs of editors

All that can happen to an editor is a `Request`: an operation of the host or an event of the
pointer. `Editor.perform` gives the editor after a request and the reply, and `Editor.run` does so
for a list of requests.
-/

namespace ShapeOverlay

/-- What the pointer does, and at which pixel of the foreground. -/
inductive Event where
  | down (pixel : Point Float) (button : Button)
  | move (pixel : Point Float)
  | up (pixel : Point Float) (button : Button)
  | click (pixel : Point Float)
  | doubleClick (pixel : Point Float)

/-- What a host asks for, or what the pointer does. -/
inductive Request where
  | init (shapes : List (Shape Float))
  | reinit (shapes : List (Shape Float))
  | addShape (shape : Shape Float)
  | addShapes (shapes : List (Shape Float))
  | redraw (keep : Bool)
  | setStatus (status : Status) (selector : Selector)
  | setAttribute (name : String) (value : Value) (selector : Selector)
  | delete (selector : Selector)
  | setMode (mode : ModeRequest)
  | highlight (i : Nat)
  | unhighlight
  | resize (v : Viewport Float)
  | event (event : Event)

/-- What is replied to a request: nothing, the place of a shape if it was accepted, the places or
the number of several, the shapes that were taken out, whether the request could be met, or what the
host is to take note of. -/
inductive Reply where
  | done
  | place (i : Option Nat)
  | places (is : List Nat)
  | count (n : Nat)
  | removed (shapes : List (Shape Float))
  | accepted (b : Bool)
  | actions (actions : List Action)

namespace Editor

/-- **The editor after an event**, and what the host is to take note of. -/
def handle (e : Editor) : Event → Editor × List Action
  | .down pixel button => e.pointerDown pixel button
  | .move pixel => e.pointerMove pixel
  | .up pixel button => e.pointerUp pixel button
  | .click pixel => e.click pixel
  | .doubleClick _ => e.doubleClick

/-- **The editor after a request**, and the reply. -/
def perform (e : Editor) : Request → Editor × Reply
  | .init shapes => (e.init shapes, .done)
  | .reinit shapes => (e.reinit shapes, .done)
  | .addShape shape => (e.addShape shape).map id .place
  | .addShapes shapes => (e.addShapes shapes).map id .places
  | .redraw keep => (e.redraw keep, .done)
  | .setStatus status selector => (e.setStatus status selector).map id .count
  | .setAttribute name value selector => (e.setAttribute name value selector).map id .count
  | .delete selector => (e.delete selector).map id .removed
  | .setMode mode => (e.setMode mode).map id .accepted
  | .highlight i => (e.highlight i).map id .accepted
  | .unhighlight => (e.unhighlight, .done)
  | .resize v => (e.resize v, .done)
  | .event event => (e.handle event).map id .actions

/-- The editor after several requests, and the replies in order. -/
def run (e : Editor) : List Request → Editor × List Reply
  | [] => (e, [])
  | request :: rest =>
    let (e, reply) := e.perform request
    let (e, replies) := e.run rest
    (e, reply :: replies)

end Editor

end ShapeOverlay
