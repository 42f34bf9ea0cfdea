/-!
# Scalars

Coordinates are made of scalars. `Scalar` names the operations that geometry needs of them, so that
the same definitions run on binary floating point numbers and can be reasoned about over an exact
ordered field. No law is part of the class: a scalar may fail to be comparable even with itself,
as a floating point `NaN` does, and every definition says what becomes of such a value.

* `Scalar.lesser`, `Scalar.greater`: the smaller and the larger of two scalars, where a scalar that
  is not comparable with itself gives way to the other;
* `Scalar.clampUnit`: the nearest scalar of the closed unit range.
-/

namespace ShapeOverlay

/-- The operations on the numbers that coordinates are made of; `norm` is the length of the vector
with two given components. -/
class Scalar (α : Type) extends Zero α, One α, Add α, Sub α, Mul α, Div α, LT α, LE α, BEq α where
  decLt : DecidableLT α
  decLe : DecidableLE α
  abs : α → α
  norm : α → α → α

attribute [reducible, instance] Scalar.decLt Scalar.decLe

namespace Scalar

variable {α : Type} [Scalar α]

/-- The smaller of two scalars; one that is not comparable with itself gives way to the other. -/
def lesser (a b : α) : α := if a ≤ b ∨ ¬ b ≤ b then a else b

/-- The larger of two scalars; one that is not comparable with itself gives way to the other. -/
def greater (a b : α) : α := if b ≤ a ∨ ¬ b ≤ b then a else b

/-- The scalar of the closed unit range nearest to `a`; incomparable scalars are left alone. -/
def clampUnit (a : α) : α := if a < 0 then 0 else if 1 < a then 1 else a

end Scalar

end ShapeOverlay
