import ShapeOverlay.Decimal.Positional
import ShapeOverlay.Text.Blank

/-!
# Themes

A `Theme` holds the colors and sizes of what is painted over the shapes: the highlight, the handles
and the mover of a shape that is edited, and the preview of a shape that is drawn. A theme is usable
if its sizes are positive and its colors are not blank; `Theme.fault?` finds the first fault.
-/

namespace ShapeOverlay

/-! ### Themes -/

/-- The colors and sizes of what is painted over the shapes; the sizes are in pixels. The radius of
a handle is half its size, and how far from it it can be grabbed. -/
structure Theme where
  highlightColor : String := "#1E90FF"
  highlightWidth : Float := 3.0
  handleRadius : Float := 8.0
  handleFill : String := "#fff"
  handleStroke : String := "#1E90FF"
  moverFill : String := "rgba(30, 144, 255, 0.12)"
  previewDash : Float := 4.0

/-- The reason why a theme cannot be used: the text is not the JSON text of a theme, a size is zero,
negative or not a number, or a color is blank. -/
inductive ThemeError where
  | malformed
  | notPositive (field : String) (value : Float)
  | empty (field : String)
  deriving DecidableEq

/-- The wording of an error. -/
def ThemeError.message : ThemeError → String
  | malformed => "invalid config json"
  | notPositive field value => field ++ " must be positive, got " ++ Decimal.textOfFloat value
  | empty field => field ++ " must not be empty"

/-! ### Faults -/

namespace Theme

/-- The sizes, in the order in which they are checked. -/
def sizes (t : Theme) : List (String × Float) :=
  [("highlightWidth", t.highlightWidth), ("handleRadiusPx", t.handleRadius),
    ("previewDashPx", t.previewDash)]

/-- The colors, in the order in which they are checked. -/
def colors (t : Theme) : List (String × String) :=
  [("highlightColor", t.highlightColor), ("handleFill", t.handleFill),
    ("handleStroke", t.handleStroke), ("moverFill", t.moverFill)]

/-- The fault of a size. -/
def sizeFault? (field : String) (value : Float) : Option ThemeError :=
  if 0 < value then none else some (.notPositive field value)

/-- The fault of a color. -/
def colorFault? (field value : String) : Option ThemeError :=
  if Blank.isBlank value then some (.empty field) else none

/-- The first fault of a theme, the sizes before the colors. -/
def fault? (t : Theme) : Option ThemeError :=
  (t.sizes.findSome? fun (field, value) => sizeFault? field value).or
    (t.colors.findSome? fun (field, value) => colorFault? field value)

/-- **The theme itself if it can be used**, else its first fault. -/
def validate (t : Theme) : Except ThemeError Theme :=
  match t.fault? with
  | some fault => .error fault
  | none => .ok t

end Theme

end ShapeOverlay
