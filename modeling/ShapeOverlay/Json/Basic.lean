/-!
# JSON trees

A `Json` is a JSON text as it is written: the entries of an object stand in the order of the text,
and a key may occur more than once. Numbers are either integers of a fixed range or finite floating
point numbers (`Number`). Two things can be written that denote no value: a numeral beyond the range
of floating point numbers, and a string with an escaped surrogate that is not half of a pair. Both
have a place in the tree, as a missing value, because a reader that skips them has no reason to
refuse them.
-/

namespace ShapeOverlay

/-! ### Numbers -/

/-- The integers that are kept as integers: those of 64 bits, with or without a sign. -/
abbrev Number.InRange (n : Int) : Prop := -0x8000000000000000 ≤ n ∧ n < 0x10000000000000000

/-- A number of a JSON text: an integer of 64 bits, with or without a sign, or a finite floating
point number. -/
inductive Number where
  | integer (n : Int) (inRange : Number.InRange n)
  | float (x : Float) (finite : x.isFinite = true)
  deriving DecidableEq

namespace Number

/-- The number for an integer, if it is in range. -/
def ofInt? (n : Int) : Option Number :=
  if h : InRange n then some (.integer n h) else none

/-- The number for a floating point number, if it is finite. -/
def ofFloat? (x : Float) : Option Number :=
  if h : x.isFinite = true then some (.float x h) else none

/-- The nearest floating point number. -/
def toFloat : Number → Float
  | integer n _ => .ofInt n
  | float x _ => x

/-- Two numbers are taken for equal if both are integers, or both are floats, of the same value. -/
instance : BEq Number where
  beq
    | integer m _, integer n _ => m == n
    | float x _, float y _ => x == y
    | _, _ => false

end Number

/-! ### Trees -/

/-- The text of a string literal; none if an escaped surrogate in it is not half of a pair. -/
abbrev Literal : Type := Option String

/-- A JSON text as a tree. A numeral beyond the range of floating point numbers gives no number, and
the entries of an object come in the order of the text. -/
inductive Json where
  | null
  | bool (b : Bool)
  | number (n : Option Number)
  | string (s : Literal)
  | array (items : List Json)
  | object (entries : List (Literal × Json))

namespace Json

/-- The number for a floating point number; null if it is not finite. -/
def ofFloat (x : Float) : Json :=
  match Number.ofFloat? x with
  | some n => number (some n)
  | none => null

/-- The string with a text. -/
def ofString (s : String) : Json := string (some s)

/-- The text of a string. -/
def text? : Json → Option String
  | string s => s
  | _ => none

/-- The value of a number as a floating point number. -/
def float? : Json → Option Float
  | number (some n) => some n.toFloat
  | _ => none

/-- The name that stands for one of several words: a string, or the key of an object whose only
value is null. -/
def word? : Json → Option String
  | string s => s
  | object [(key, null)] => key
  | _ => none

/-! ### Fields of objects -/

/-- The entries of an object, if every key denotes a text. -/
def entries? : Json → Option (List (String × Json))
  | object entries => entries.mapM fun (key, value) => key.map (·, value)
  | _ => none

/-- The values under a key, in the order of the text. -/
def valuesAt (entries : List (String × Json)) (key : String) : List Json :=
  (entries.filter (·.1 == key)).map (·.2)

/-- What is read of the one value under a key. -/
def field? {β : Type} (entries : List (String × Json)) (key : String) (read : Json → Option β) :
    Option β :=
  match valuesAt entries key with
  | [value] => read value
  | _ => none

/-- What is read of the one value under a key, or a default if there is none. -/
def fieldOr? {β : Type} (entries : List (String × Json)) (key : String) (default : β)
    (read : Json → Option β) : Option β :=
  match valuesAt entries key with
  | [] => some default
  | [value] => read value
  | _ => none

end Json

end ShapeOverlay
