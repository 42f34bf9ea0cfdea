import ShapeOverlay.Scalar

/-!
# Binary floating point numbers as scalars

`Float` is the scalar type that runs. Its arithmetic and its comparisons are those of the machine;
its norm is the Euclidean norm, computed exactly in integers and rounded once (`Binary64.norm`), so
that no intermediate square overflows or underflows.
-/

namespace ShapeOverlay.Binary64

open Float.Model

/-- Positive infinity. -/
def infinity : Float := .ofModel (pack (.infinity .positive))

/-- The value that is not a number. -/
def notANumber : Float := .ofModel (pack .notANumber)

/-- The square root of `m² · 4 ^ e + n² · 4 ^ f`, rounded to the nearest floating point number. -/
def hypotenuse (m : Nat) (e : Int) (n : Nat) (f : Int) : Float :=
  let q := min e f
  let a := m <<< (e - q).toNat
  let b := n <<< (f - q).toNat
  if h : 0 < a * a + b * b then
    .ofModel (pack (UnpackedFloat.sqrt .binary64 (.finite .positive (a * a + b * b) (2 * q) h)))
  else .ofModel (pack (.zero .positive))

/-- **The Euclidean norm of two floating point numbers.** An infinite component makes it infinite,
whatever the other is; otherwise a component that is not a number makes it not a number. -/
def norm (x y : Float) : Float :=
  match x.toModel.unpack, y.toModel.unpack with
  | .infinity _, _ => infinity
  | _, .infinity _ => infinity
  | .notANumber, _ => notANumber
  | _, .notANumber => notANumber
  | .zero _, _ => y.abs
  | _, .zero _ => x.abs
  | .finite _ m e _, .finite _ n f _ => hypotenuse m e n f

instance : Scalar Float where
  zero := 0
  one := 1
  add := Float.add
  sub := Float.sub
  mul := Float.mul
  div := Float.div
  lt a b := a < b
  le a b := a ≤ b
  beq := Float.beq
  decLt a b := Float.decLt a b
  decLe a b := Float.decLe a b
  abs := Float.abs
  norm := norm

end ShapeOverlay.Binary64
