/-!
# Notices

An editor keeps a journal of what happened in it. A `Notice` is one entry of the journal. It has a
level, by which a host decides whether to show it, and a wording.
-/

namespace ShapeOverlay

/-- How important a notice is: of use when a fault is looked for, of interest in normal use, or
telling that something did not work. -/
inductive Level where
  | debug
  | info
  | warn
  deriving Repr, DecidableEq

/-- The name of a level. -/
def Level.name : Level → String
  | debug => "debug"
  | info => "info"
  | warn => "warn"

/-- What happened in an editor. The shape to be edited is unavailable if it is not there or cannot
be edited, and lost if that becomes so while it is edited. -/
inductive Notice where
  | shapeRefused
  | initialized
  | shapesReplaced
  | shapeAdded
  | shapesAdded
  | statusUpdated
  | attributeRefused
  | attributeUpdated
  | shapesDeleted
  | targetUnavailable
  | highlightOutOfRange
  | viewportResized
  | modeSwitched
  | targetLost
  | shapeSelected
  | shapeCreated
  | editFinished
  | renderFailed
  deriving Repr, DecidableEq

namespace Notice

/-- How important a notice is. -/
def level : Notice → Level
  | initialized | shapesReplaced | shapesDeleted | shapeCreated | editFinished => .info
  | shapeRefused | attributeRefused | renderFailed => .warn
  | shapeAdded | shapesAdded | statusUpdated | attributeUpdated | targetUnavailable
  | highlightOutOfRange | viewportResized | modeSwitched | targetLost | shapeSelected => .debug

/-- The wording of a notice. -/
def message : Notice → String
  | shapeRefused => "refusing incomplete shape"
  | initialized => "engine initialized"
  | shapesReplaced => "shapes replaced"
  | shapeAdded => "shape added"
  | shapesAdded => "shapes added"
  | statusUpdated => "status updated"
  | attributeRefused => "attribute not set"
  | attributeUpdated => "attribute updated"
  | shapesDeleted => "shapes deleted"
  | targetUnavailable => "edit target unavailable, mode unchanged"
  | highlightOutOfRange => "highlight index out of range"
  | viewportResized => "viewport resized"
  | modeSwitched => "mode switched"
  | targetLost => "edit target gone, resuming detection"
  | shapeSelected => "shape selected"
  | shapeCreated => "shape created"
  | editFinished => "edit finished"
  | renderFailed => "render failed"

end Notice

end ShapeOverlay
