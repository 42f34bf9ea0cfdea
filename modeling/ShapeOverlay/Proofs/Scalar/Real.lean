import Mathlib.Analysis.Real.Sqrt
import ShapeOverlay.Plane.Viewport

/-! # Exact numbers as scalars

The same definitions that run on floating point numbers can be read over `ℝ`. Its arithmetic is
exact and its norm is the Euclidean norm, and so a surface that is made larger or smaller by a
positive factor along each axis changes no relative point (`toRelative_scaled`), and lengthens a
radius by the factor that both axes share (`effective_scaled`). -/

namespace ShapeOverlay

/-- Exact numbers, with the Euclidean norm. -/
noncomputable instance : Scalar ℝ where
  zero := 0
  one := 1
  add a b := a + b
  sub a b := a - b
  mul a b := a * b
  div a b := a / b
  lt a b := a < b
  le a b := a ≤ b
  beq a b := decide (a = b)
  decLt := Real.decidableLT
  decLe := Real.decidableLE
  abs a := |a|
  norm a b := √(a * a + b * b)

namespace Scalar

/-- The Euclidean norm grows by a factor as its components do. -/
theorem norm_mul {k : ℝ} (hk : 0 ≤ k) (a b : ℝ) : norm (k * a) (k * b) = k * norm a b := by
  have hsum : k * a * (k * a) + k * b * (k * b) = k ^ 2 * (a * a + b * b) := by ring
  show √(k * a * (k * a) + k * b * (k * b)) = k * √(a * a + b * b)
  rw [hsum, Real.sqrt_mul (sq_nonneg k), Real.sqrt_sq hk]

end Scalar

/-! ### Larger and smaller surfaces -/

variable {α : Type} [Scalar α]

/-- A point with its coordinates multiplied by one factor for each axis. -/
def Point.scaled (kx ky : α) (p : Point α) : Point α := ⟨kx * p.x, ky * p.y⟩

/-- A surface larger or smaller by one factor for each axis. -/
def Viewport.scaled (kx ky : α) (v : Viewport α) : Viewport α := ⟨kx * v.width, ky * v.height⟩

section
variable {kx ky k : ℝ}

theorem isEmpty_scaled (hx : 0 < kx) (hy : 0 < ky) (v : Viewport ℝ) :
    (v.scaled kx ky).isEmpty = v.isEmpty := by
  have hle : ∀ {k : ℝ} (a : ℝ), 0 < k → (k * a ≤ 0 ↔ a ≤ 0) := fun a hk =>
    ⟨fun h => nonpos_of_mul_nonpos_right h hk, mul_nonpos_of_nonneg_of_nonpos hk.le⟩
  simp only [Viewport.isEmpty, Viewport.scaled, hle _ hx, hle _ hy]

/-- A pixel of a surface and the pixel at the same place of a larger or smaller one have the same
relative point. -/
theorem toRelative_scaled (hx : 0 < kx) (hy : 0 < ky) (v : Viewport ℝ) (pixel : Point ℝ) :
    (v.scaled kx ky).toRelative (pixel.scaled kx ky) = v.toRelative pixel := by
  have hdiv : ∀ {k : ℝ} (a b : ℝ), 0 < k → k * a / (k * b) = a / b :=
    fun a b hk => mul_div_mul_left a b hk.ne'
  unfold Viewport.toRelative Viewport.toRelativeUnclamped
  rw [isEmpty_scaled hx hy]
  simp only [Viewport.scaled, Point.scaled, hdiv _ _ hx, hdiv _ _ hy]

theorem toPixels_scaled (v : Viewport ℝ) (p : Point ℝ) :
    (v.scaled kx ky).toPixels p = (v.toPixels p).scaled kx ky := by
  simp only [Viewport.toPixels, Viewport.scaled, Point.scaled, mul_left_comm]

theorem effective_scaled (hk : 0 ≤ k) (v : Viewport ℝ) (r : Radius ℝ) :
    r.effective (v.scaled k k) = k * r.effective v := by
  unfold Radius.effective Viewport.scaled
  rw [mul_left_comm r.x, mul_left_comm r.y, Scalar.norm_mul hk]

end

end ShapeOverlay
