import ShapeOverlay.Shape

/-!
# Attributes of shapes

The attributes of a shape share one space of names (`AttributeName.ofText`): its kind and its
identity, which can only be read, its color, width and status, which hold values of one type each,
and all other names, under which a host keeps what it likes. `Shape.attribute?` reads an attribute,
`Shape.setAttribute` writes one or says why it cannot be written (`AttributeError`), and
`Shape.hasAttribute` compares one with a value.
-/

namespace ShapeOverlay

/-! ### Names -/

/-- What the name of an attribute denotes: what every shape has, or a value that a host attached. -/
inductive AttributeName where
  | kind
  | id
  | lineColor
  | lineWidth
  | status
  | prop (name : String)
  deriving Repr, DecidableEq

/-- The attribute that a name denotes; color and width have two spellings. -/
def AttributeName.ofText (name : String) : AttributeName :=
  if name = "type" then kind
  else if name = "id" then id
  else if name = "lineColor" ∨ name = "line_color" then lineColor
  else if name = "lineWidth" ∨ name = "line_width" then lineWidth
  else if name = "status" then status
  else prop name

/-! ### Errors -/

/-- The reason why an attribute cannot be written. -/
inductive AttributeError where
  | readOnly (name : String)
  | wrongType (name expected : String)
  deriving Repr, DecidableEq

/-- The wording of an error. -/
def AttributeError.message : AttributeError → String
  | readOnly name => "attribute " ++ name ++ " is read-only"
  | wrongType name expected => "attribute " ++ name ++ " expects " ++ expected

/-! ### Reading and writing -/

namespace Shape

variable {α : Type}

/-- The value of an attribute, if the shape has it. -/
def attribute? (s : Shape α) (name : String) : Option Value :=
  match AttributeName.ofText name with
  | .kind => some (.ofString s.kind.name)
  | .id => some (.ofString s.id.text)
  | .lineColor => some (.ofString s.lineColor)
  | .lineWidth => some (.ofFloat s.lineWidth)
  | .status => some (.ofString s.status.name)
  | .prop key => s.props.get? key

/-- The shape has the attribute, with a value that agrees with the given one. -/
def hasAttribute (s : Shape α) (name : String) (value : Value) : Bool :=
  (s.attribute? name).any (·.agrees value)

/-- **The shape after an attribute is written**, or the reason why it cannot be. A null value erases
what a host attached. -/
def setAttribute (s : Shape α) (name : String) (value : Value) : Except AttributeError (Shape α) :=
  match AttributeName.ofText name with
  | .kind | .id => .error (.readOnly name)
  | .lineColor =>
    match value.string? with
    | some color => .ok { s with lineColor := color }
    | none => .error (.wrongType name "a color string")
  | .lineWidth =>
    match value.float?.filter (fun w => decide (0 ≤ w)) with
    | some width => .ok { s with lineWidth := width }
    | none => .error (.wrongType name "a non-negative number")
  | .status =>
    match value.string?.bind Status.ofName? with
    | some status => .ok { s with status := status }
    | none => .error (.wrongType name "active, hidden or inactive")
  | .prop key => .ok { s with props := s.props.put key value }

/-- The shape after an attribute is written, if it can be. -/
def withAttribute (s : Shape α) (name : String) (value : Value) : Shape α :=
  match s.setAttribute name value with
  | .ok written => written
  | .error _ => s

end Shape

end ShapeOverlay
