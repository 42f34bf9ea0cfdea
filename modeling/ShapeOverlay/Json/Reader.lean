import ShapeOverlay.Json.Token

/-!
# Reading JSON

`Json.ofTokens?` builds the tree of a list of tokens. It goes over the tokens once and keeps the
containers that are still open on a stack (`Reading`), so that the depth of the nesting costs
nothing but memory. `Json.ofText?` reads a text of any depth and `Json.ofTextWithin?` only one whose
containers nest no deeper than a limit. Strictness is that of the format: one value, nothing but
blanks around it, no comma at the end of a container.
-/

namespace ShapeOverlay

/-! ### Readings -/

/-- A container that is still open, with its items or entries so far, latest first, and in an object
with the key of the value being read. -/
inductive Reading.Frame where
  | array (items : List Json)
  | object (entries : List (Literal × Json)) (key : Literal)

/-- What has been read of a list of tokens, and what must follow: a value or a key, or the end of a
container that was just `opened`; the separator between a key and its value; and after a value that
is complete a comma or the end of its container. -/
inductive Reading where
  | value (opened : Bool) (stack : List Reading.Frame)
  | key (opened : Bool) (entries : List (Literal × Json)) (stack : List Reading.Frame)
  | colon (key : Literal) (entries : List (Literal × Json)) (stack : List Reading.Frame)
  | complete (v : Json) (stack : List Reading.Frame)

namespace Reading

/-- One more token where a value must follow. -/
def beginValue (stack : List Frame) : Token → Option Reading
  | .null => some (.complete .null stack)
  | .bool b => some (.complete (.bool b) stack)
  | .number n => some (.complete (.number n) stack)
  | .string s => some (.complete (.string s) stack)
  | .openArray => some (.value true (.array [] :: stack))
  | .openObject => some (.key true [] stack)
  | _ => none

/-- One more token behind a complete value. -/
def endValue (v : Json) : List Frame → Token → Option Reading
  | .array items :: stack, .comma => some (.value false (.array (v :: items) :: stack))
  | .array items :: stack, .closeArray => some (.complete (.array (v :: items).reverse) stack)
  | .object entries name :: stack, .comma => some (.key false ((name, v) :: entries) stack)
  | .object entries name :: stack, .closeObject =>
    some (.complete (.object ((name, v) :: entries).reverse) stack)
  | _, _ => none

/-- One more token. -/
def step : Reading → Token → Option Reading
  | .value true (.array [] :: stack), .closeArray => some (.complete (.array []) stack)
  | .value _ stack, token => beginValue stack token
  | .key true _ stack, .closeObject => some (.complete (.object []) stack)
  | .key _ entries stack, .string s => some (.colon s entries stack)
  | .colon name entries stack, .colon => some (.value false (.object entries name :: stack))
  | .complete v stack, token => endValue v stack token
  | _, _ => none

/-- The tree of a list of tokens that has been read to its end. -/
def finish : Reading → Option Json
  | .complete v [] => some v
  | _ => none

end Reading

/-! ### Trees of texts -/

/-- How deep the containers of a list of tokens nest. -/
def Token.nesting (tokens : List Token) : Nat :=
  (tokens.foldl
    (fun (depth, deepest) token =>
      match token with
      | .openArray | .openObject => (depth + 1, max deepest (depth + 1))
      | .closeArray | .closeObject => (depth - 1, deepest)
      | _ => (depth, deepest))
    (0, 0)).2

namespace Json

/-- The tree of a list of tokens, if they form one value. -/
def ofTokens? (tokens : List Token) : Option Json :=
  (tokens.foldlM Reading.step (.value false [])).bind Reading.finish

/-- **The tree of a JSON text**, if it is one. -/
def ofText? (text : String) : Option Json := (Token.ofText? text).bind ofTokens?

/-- The tree of a JSON text whose containers nest no deeper than a limit. -/
def ofTextWithin? (limit : Nat) (text : String) : Option Json := do
  let tokens ← Token.ofText? text
  if Token.nesting tokens ≤ limit then ofTokens? tokens else none

end Json

end ShapeOverlay
