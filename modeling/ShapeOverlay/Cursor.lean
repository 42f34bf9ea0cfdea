/-!
# Cursors

The cursor tells the user what the pointer would do. A `Cursor` has a name by which a host shows it.
-/

namespace ShapeOverlay

/-- The look of the pointer: `default` over nothing, `pointer` over a shape that can be selected,
`crosshair` while a shape is drawn, and, while one is edited, `move` where it can be moved and
`grab` over a handle. -/
inductive Cursor where
  | default
  | pointer
  | crosshair
  | move
  | grab
  deriving Repr, DecidableEq

/-- The name of a cursor. -/
def Cursor.name : Cursor → String
  | default => "default"
  | pointer => "pointer"
  | crosshair => "crosshair"
  | move => "move"
  | grab => "grab"

end ShapeOverlay
