import Mathlib
import ShapeOverlay.Proofs.Scalar.Laws
import ShapeOverlay.Proofs.Scalar.Real

/-! # Exact arithmetic

Some laws hold only as long as no operation rounds. `ExactScalar` says so without a choice of
numbers or of norm: the scalars are an ordered field, and the norm may be any function that is never
negative. `EuclideanScalar` adds that the norm is the Euclidean one. The real numbers with the
Euclidean norm are an instance of both.

Over exact scalars the operations of `Scalar` are the familiar ones: `lesser` and `greater` are the
minimum and the maximum, and clamping leaves a number of the unit range alone. -/

namespace ShapeOverlay

/-- **Scalars whose arithmetic is exact**, with some norm that is not negative. -/
class ExactScalar (α : Type) extends Scalar α, Field α, LinearOrder α, IsStrictOrderedRing α where
  beq_iff_eq {x y : α} : (x == y) = true ↔ x = y
  abs_eq (x : α) : Scalar.abs x = |x|
  norm_nonneg (x y : α) : 0 ≤ Scalar.norm x y

noncomputable instance : ExactScalar ℝ where
  __ := (inferInstance : Scalar ℝ)
  __ := (inferInstance : Field ℝ)
  __ := (inferInstance : LinearOrder ℝ)
  __ := (inferInstance : IsStrictOrderedRing ℝ)
  beq_iff_eq := decide_eq_true_iff
  abs_eq _ := rfl
  norm_nonneg _ _ := Real.sqrt_nonneg _

instance {α : Type} [ExactScalar α] : OrderedScalar α where
  le_trans := le_trans
  le_self_left _ := le_rfl
  le_self_right _ := le_rfl
  le_total _ _ := le_total _ _
  lt_iff := lt_iff_le_not_ge
  beq_iff := ExactScalar.beq_iff_eq.trans le_antisymm_iff
  zero_lt_one := zero_lt_one

instance ExactScalar.lawfulBEq {α : Type} [ExactScalar α] : LawfulBEq α where
  eq_of_beq := ExactScalar.beq_iff_eq.mp
  rfl := ExactScalar.beq_iff_eq.mpr rfl

/-- **Exact scalars with the Euclidean norm.** -/
class EuclideanScalar (α : Type) extends ExactScalar α where
  norm_mul_self (x y : α) : Scalar.norm x y * Scalar.norm x y = x * x + y * y

noncomputable instance : EuclideanScalar ℝ where
  toExactScalar := inferInstance
  norm_mul_self x y := Real.mul_self_sqrt (add_nonneg (mul_self_nonneg x) (mul_self_nonneg y))

namespace Scalar

section Euclidean
variable {α : Type} [EuclideanScalar α]

theorem norm_zero_left (y : α) : norm 0 y = |y| := by
  refine (mul_self_inj (ExactScalar.norm_nonneg 0 y) (abs_nonneg y)).mp ?_
  rw [EuclideanScalar.norm_mul_self, mul_zero, zero_add, abs_mul_abs_self]

theorem norm_zero_right (x : α) : norm x 0 = |x| := by
  refine (mul_self_inj (ExactScalar.norm_nonneg x 0) (abs_nonneg x)).mp ?_
  rw [EuclideanScalar.norm_mul_self, mul_zero, add_zero, abs_mul_abs_self]

end Euclidean

variable {α : Type} [ExactScalar α] {a : α}

theorem lesser_eq_min (a b : α) : lesser a b = min a b := by
  unfold lesser
  split_ifs with h
  · have hab : a ≤ b := h.resolve_right (not_not.mpr le_rfl)
    exact (min_eq_left hab).symm
  · have hba : b ≤ a := le_of_not_ge fun hab => h (Or.inl hab)
    exact (min_eq_right hba).symm

theorem greater_eq_max (a b : α) : greater a b = max a b := by
  unfold greater
  split_ifs with h
  · have hba : b ≤ a := h.resolve_right (not_not.mpr le_rfl)
    exact (max_eq_left hba).symm
  · have hab : a ≤ b := le_of_not_ge fun hba => h (Or.inl hba)
    exact (max_eq_right hab).symm

theorem clampUnit_of_mem (h0 : 0 ≤ a) (h1 : a ≤ 1) : clampUnit a = a := by
  unfold clampUnit
  rw [if_neg (not_lt.mpr h0), if_neg (not_lt.mpr h1)]

end Scalar

end ShapeOverlay
