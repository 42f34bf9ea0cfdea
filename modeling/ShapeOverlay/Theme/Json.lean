import ShapeOverlay.Json.Reader
import ShapeOverlay.Theme

/-!
# Themes as JSON

A theme is written as an object with seven fields and read from any object (`Theme.ofJson?`): a
missing field takes its default, an unknown one is skipped whatever its value, and a known one may
not be repeated. A list of up to seven values is read as the fields in order. `Theme.ofText` reads a
theme from JSON text and checks that it can be used.
-/

namespace ShapeOverlay.Theme

/-- The theme of the entries of an object. -/
def ofEntries? (entries : List (String × Json)) : Option Theme := do
  let fallback : Theme := {}
  let highlightColor ← Json.fieldOr? entries "highlightColor" fallback.highlightColor Json.text?
  let highlightWidth ← Json.fieldOr? entries "highlightWidth" fallback.highlightWidth Json.float?
  let handleRadius ← Json.fieldOr? entries "handleRadiusPx" fallback.handleRadius Json.float?
  let handleFill ← Json.fieldOr? entries "handleFill" fallback.handleFill Json.text?
  let handleStroke ← Json.fieldOr? entries "handleStroke" fallback.handleStroke Json.text?
  let moverFill ← Json.fieldOr? entries "moverFill" fallback.moverFill Json.text?
  let previewDash ← Json.fieldOr? entries "previewDashPx" fallback.previewDash Json.float?
  some
    { highlightColor, highlightWidth, handleRadius, handleFill, handleStroke, moverFill
      previewDash }

/-- The names of the fields in the order in which a list gives their values. -/
def fieldNames : List String :=
  ["highlightColor", "highlightWidth", "handleRadiusPx", "handleFill", "handleStroke", "moverFill",
    "previewDashPx"]

/-- The theme of a JSON tree, if it is one. -/
def ofJson? : Json → Option Theme
  | .array items =>
    if items.length ≤ fieldNames.length then ofEntries? (fieldNames.zip items) else none
  | j => j.entries?.bind ofEntries?

/-- A theme as a JSON tree. -/
def toJson (t : Theme) : Json :=
  .object
    [(some "highlightColor", .ofString t.highlightColor),
      (some "highlightWidth", .ofFloat t.highlightWidth),
      (some "handleRadiusPx", .ofFloat t.handleRadius),
      (some "handleFill", .ofString t.handleFill),
      (some "handleStroke", .ofString t.handleStroke),
      (some "moverFill", .ofString t.moverFill),
      (some "previewDashPx", .ofFloat t.previewDash)]

/-- The theme of a JSON tree if it can be used. -/
def ofJson (j : Json) : Except ThemeError Theme :=
  match ofJson? j with
  | some t => t.validate
  | none => .error .malformed

/-- **The theme of a JSON text** if it can be used. -/
def ofText (text : String) : Except ThemeError Theme :=
  match Json.ofText? text with
  | some j => ofJson j
  | none => .error .malformed

end ShapeOverlay.Theme
