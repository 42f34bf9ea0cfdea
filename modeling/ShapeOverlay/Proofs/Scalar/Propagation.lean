import ShapeOverlay.Proofs.Geometry.UnitSquare
import ShapeOverlay.Proofs.Scalar.Range

/-! # What is not a number spreads

The result of an operation is a number only if its arguments are (`isNumber_of_add`,
`isNumber_of_mul`), but for the norm, which is infinite beside an infinite component whatever the
other one is. Clamping lets through what is not a number (`Point.has_clamped_iff`), and so a pixel is made
of numbers exactly if its relative point is (`Viewport.has_toRelative_iff`). -/

namespace ShapeOverlay

namespace Binary64

open Float.Model UnpackedFloat

/-! ### Operations -/

theorem ne_of_pack_ne {f : UnpackedFloat} (h : (pack f).unpack ≠ .notANumber) :
    f ≠ .notANumber := by
  rintro rfl
  exact h rfl

theorem isNumber_of_add {a b : Float} (h : IsNumber (a + b)) : IsNumber a ∧ IsNumber b := by
  have h : UnpackedFloat.add .binary64 a.toModel.unpack b.toModel.unpack ≠ .notANumber :=
    ne_of_pack_ne h
  unfold IsNumber
  revert h
  rcases a.toModel.unpack with _ | _ | _ | _ <;> rcases b.toModel.unpack with _ | _ | _ | _ <;>
    simp [UnpackedFloat.add]

theorem isNumber_of_sub {a b : Float} (h : IsNumber (a - b)) : IsNumber a ∧ IsNumber b := by
  have h : UnpackedFloat.sub .binary64 a.toModel.unpack b.toModel.unpack ≠ .notANumber :=
    ne_of_pack_ne h
  unfold IsNumber
  revert h
  rcases a.toModel.unpack with _ | _ | _ | _ <;> rcases b.toModel.unpack with _ | _ | _ | _ <;>
    simp [UnpackedFloat.sub]

theorem isNumber_of_mul {a b : Float} (h : IsNumber (a * b)) : IsNumber a ∧ IsNumber b := by
  have h : UnpackedFloat.mul .binary64 a.toModel.unpack b.toModel.unpack ≠ .notANumber :=
    ne_of_pack_ne h
  unfold IsNumber
  revert h
  rcases a.toModel.unpack with _ | _ | _ | _ <;> rcases b.toModel.unpack with _ | _ | _ | _ <;>
    simp [UnpackedFloat.mul]

theorem isNumber_of_div {a b : Float} (h : IsNumber (a / b)) : IsNumber a ∧ IsNumber b := by
  have h : UnpackedFloat.div .binary64 a.toModel.unpack b.toModel.unpack ≠ .notANumber :=
    ne_of_pack_ne h
  unfold IsNumber
  revert h
  rcases a.toModel.unpack with _ | _ | _ | _ <;> rcases b.toModel.unpack with _ | _ | _ | _ <;>
    simp [UnpackedFloat.div]

theorem isNumber_of_abs {a : Float} (h : IsNumber a.abs) : IsNumber a := by
  have h : a.toModel.unpack.abs ≠ .notANumber := ne_of_pack_ne h
  unfold IsNumber
  revert h
  rcases a.toModel.unpack with _ | _ | _ | _ <;> simp [UnpackedFloat.abs]

theorem isNumber_of_lt {a b : Float} (h : a < b) : IsNumber a ∧ IsNumber b :=
  isNumber_of_le (Scalar.le_of_lt h)

theorem isNumber_of_clampUnit {a : Float} (h : IsNumber (Scalar.clampUnit a)) : IsNumber a := by
  unfold Scalar.clampUnit at h
  split_ifs at h with hlow hhigh
  · exact (isNumber_of_lt hlow).1
  · exact (isNumber_of_lt hhigh).2
  · exact h

/-- The norm is a number if its components are, and also if one of them is infinite. -/
theorem isNumber_of_norm {a b : Float} (h : IsNumber (norm a b)) (hne : norm a b ≠ infinity) :
    IsNumber a ∧ IsNumber b := by
  have hnone : ¬ IsNumber notANumber := fun hnumber => hnumber rfl
  revert h hne
  unfold norm
  split <;> intro h hne
  · exact absurd rfl hne
  · exact absurd rfl hne
  · exact absurd h hnone
  · exact absurd h hnone
  · exact ⟨ne_of_eq_of_ne ‹a.toModel.unpack = .zero _› nofun, isNumber_of_abs h⟩
  · exact ⟨isNumber_of_abs h, ne_of_eq_of_ne ‹b.toModel.unpack = .zero _› nofun⟩
  · exact ⟨ne_of_eq_of_ne ‹a.toModel.unpack = .finite _ _ _ _› nofun,
      ne_of_eq_of_ne ‹b.toModel.unpack = .finite _ _ _ _› nofun⟩

/-- Nothing is left of a number from which infinity is taken. -/
theorem not_nonneg_sub_infinity (a : Float) : ¬ 0 ≤ a - infinity := by
  have hinfinity : infinity.toModel.unpack = .infinity .positive := by rfl
  have hsub : UnpackedFloat.sub .binary64 a.toModel.unpack infinity.toModel.unpack = .notANumber ∨
      UnpackedFloat.sub .binary64 a.toModel.unpack infinity.toModel.unpack =
        .infinity .negative := by
    rw [hinfinity]
    rcases a.toModel.unpack with (_ | _) | _ | _ | _
    · exact Or.inr rfl
    · exact Or.inl rfl
    · exact Or.inl rfl
    · exact Or.inr rfl
    · exact Or.inr rfl
  have hpack : a - infinity = .ofModel
      (pack (UnpackedFloat.sub .binary64 a.toModel.unpack infinity.toModel.unpack)) := rfl
  rw [hpack]
  rcases hsub with hsub | hsub <;> rw [hsub] <;> decide

end Binary64

open Scalar Binary64

variable {v : Viewport Float} {p q pixel : Point Float}

/-! ### Points and geometries -/

theorem Point.has_of_add (h : (p + q).Has IsNumber) : p.Has IsNumber ∧ q.Has IsNumber :=
  ⟨⟨(isNumber_of_add h.1).1, (isNumber_of_add h.2).1⟩,
    (isNumber_of_add h.1).2, (isNumber_of_add h.2).2⟩

/-- **Clamping neither makes nor removes what is not a number.** -/
theorem Point.has_clamped_iff : p.clamped.Has IsNumber ↔ p.Has IsNumber :=
  ⟨fun h => ⟨isNumber_of_clampUnit h.1, isNumber_of_clampUnit h.2⟩,
    fun h => (Point.fits_clamped domain_numbers h).has⟩

theorem Geometry.has_clamped_iff {g : Geometry Float} :
    g.clamped.Has IsNumber ↔ g.Has IsNumber := by
  cases g with
  | rectangle a b => exact and_congr Point.has_clamped_iff Point.has_clamped_iff
  | polygon ps => simp [Geometry.clamped, Geometry.Has, Point.has_clamped_iff]
  | circle c r =>
    refine and_congr Point.has_clamped_iff ?_
    exact ⟨fun h => ⟨isNumber_of_abs h.1, isNumber_of_abs h.2⟩,
      fun h => (Radius.fits_magnitude domain_numbers h).has⟩

/-- **A pixel is made of numbers exactly if its relative point is**, on a surface with an area. -/
theorem Viewport.has_toRelative_iff (hv : v.Has fun w => w.isFinite = true) (harea : v.isEmpty = false) :
    (v.toRelative pixel).Has IsNumber ↔ pixel.Has IsNumber := by
  refine ⟨fun h => ?_, fun h => (fits_toRelative domain_numbers hv h).has⟩
  rw [toRelative, toRelativeUnclamped, harea, Point.has_clamped_iff] at h
  exact ⟨(isNumber_of_div h.1).1, (isNumber_of_div h.2).1⟩

end ShapeOverlay
