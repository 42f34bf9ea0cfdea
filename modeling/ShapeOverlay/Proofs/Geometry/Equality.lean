import Mathlib.Logic.Basic
import ShapeOverlay.Geometry

/-! # Equal geometries

The test whether two geometries are equal compares them point by point. It tells whether they are the
same wherever the test on scalars does; with floating point numbers it does not, as a scalar may
differ from itself and zeros of either sign are equal. -/

namespace ShapeOverlay

variable {α : Type} [BEq α] [LawfulBEq α]

instance : LawfulBEq (Point α) where
  eq_of_beq {p q} h := by
    obtain ⟨hx, hy⟩ := Bool.and_eq_true_iff.mp h
    exact congrArg₂ Point.mk (eq_of_beq hx) (eq_of_beq hy)
  rfl := Bool.and_eq_true_iff.mpr ⟨beq_self_eq_true _, beq_self_eq_true _⟩

instance : LawfulBEq (Radius α) where
  eq_of_beq {r s} h := by
    obtain ⟨hx, hy⟩ := Bool.and_eq_true_iff.mp h
    exact congrArg₂ Radius.mk (eq_of_beq hx) (eq_of_beq hy)
  rfl := Bool.and_eq_true_iff.mpr ⟨beq_self_eq_true _, beq_self_eq_true _⟩

instance : LawfulBEq (Geometry α) where
  eq_of_beq {g g'} h := by
    match g, g', h with
    | .rectangle a b, .rectangle c d, h =>
      obtain ⟨ha, hb⟩ := Bool.and_eq_true_iff.mp h
      exact congrArg₂ Geometry.rectangle (eq_of_beq ha) (eq_of_beq hb)
    | .polygon ps, .polygon qs, h => exact congrArg Geometry.polygon (eq_of_beq h)
    | .circle c r, .circle d s, h =>
      obtain ⟨hc, hr⟩ := Bool.and_eq_true_iff.mp h
      exact congrArg₂ Geometry.circle (eq_of_beq hc) (eq_of_beq hr)
  rfl {g} := by
    cases g with
    | rectangle a b => exact Bool.and_eq_true_iff.mpr ⟨beq_self_eq_true _, beq_self_eq_true _⟩
    | polygon vertices => exact beq_self_eq_true vertices
    | circle c r => exact Bool.and_eq_true_iff.mpr ⟨beq_self_eq_true _, beq_self_eq_true _⟩

end ShapeOverlay
