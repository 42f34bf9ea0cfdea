import ShapeOverlay.Proofs.Session.DragBack
import ShapeOverlay.Proofs.Geometry.Equality

/-! # Dragging the radius of a circle

A drag of the radius leads the handle of a circle after the pointer, as long as the circle stays on
the surface. A move is accepted if the pointer is back where it was pressed or the circle to which it
leads fits (`Drag.Accepted`), and otherwise it is rejected (`Drag.Rejected`): the radius stays what it
was, and the session knows how far the pointer has run ahead of the handle.

The centre never moves and the circle fits after every move (`Drag.exists_follow_radius_fits`). With
the Euclidean norm, a target at the place of the handle always fits
(`fitsCircle_between_radiusHandle`), so the pointer has really run ahead whenever a move is rejected.
Whether a move is accepted does not depend on the moves before it
(`radius_drag_accepts_or_rejects`). -/

namespace ShapeOverlay

open Scalar

/-! ### Circles that fit -/

section
variable {α : Type} [Scalar α] {v : Viewport α} {c : Point α} {a : α}

theorem fitsCircle_iff_comparisons : v.fitsCircle c a = true ↔
    (0 ≤ c.x * v.width - a ∧ c.x * v.width + a ≤ v.width) ∧
      0 ≤ c.y * v.height - a ∧ c.y * v.height + a ≤ v.height := by
  unfold Viewport.fitsCircle
  simp only [Bool.and_eq_true, decide_eq_true_eq, and_assoc]
  exact Iff.rfl

end

/-- A smaller circle around the same centre fits too. -/
theorem fitsCircle_of_le {α : Type} [ExactScalar α] {v : Viewport α} {c : Point α} {a b : α}
    (h : v.fitsCircle c b = true) (hab : a ≤ b) : v.fitsCircle c a = true := by
  obtain ⟨⟨hleft, hright⟩, htop, hbottom⟩ := fitsCircle_iff_comparisons.mp h
  have hleft : 0 ≤ c.x * v.width - b := hleft
  have htop : 0 ≤ c.y * v.height - b := htop
  have hright : c.x * v.width + b ≤ v.width := hright
  have hbottom : c.y * v.height + b ≤ v.height := hbottom
  refine fitsCircle_iff_comparisons.mpr ⟨⟨?_, ?_⟩, ?_, ?_⟩
  · show 0 ≤ c.x * v.width - a
    linarith
  · show c.x * v.width + a ≤ v.width
    linarith
  · show 0 ≤ c.y * v.height - a
    linarith
  · show c.y * v.height + a ≤ v.height
    linarith

variable {α : Type} [EuclideanScalar α] {v : Viewport α} {c p q offset : Point α}
variable {r r' grabbed : Radius α} {blind : Point α}

/-- The circle drawn out to the handle of another one is no larger than that. -/
theorem effective_between_radiusHandle_le (c : Point α) (r : Radius α) (v : Viewport α) :
    (Radius.between c (radiusHandle c (r.effective v) v)).effective v ≤ r.effective v := by
  have hr : 0 ≤ r.effective v := ExactScalar.norm_nonneg _ _
  unfold radiusHandle
  split_ifs with hv
  · have hzero : Radius.between c c = ⟨0, 0⟩ := by
      simp only [Radius.between, ExactScalar.abs_eq, sub_self, abs_zero]
    rw [hzero, Radius.effective, zero_mul, zero_mul, norm_zero_left, abs_zero]
    exact hr
  · obtain ⟨-, hh⟩ := Viewport.not_le_of_not_isEmpty hv
    have hh : 0 < v.height := not_le.mp hh
    have hheight : Radius.between c ⟨c.x, c.y - r.effective v / v.height⟩ =
        ⟨0, r.effective v / v.height⟩ := by
      have hnonneg : 0 ≤ r.effective v / v.height := div_nonneg hr hh.le
      simp only [Radius.between, ExactScalar.abs_eq, sub_self, abs_zero, sub_sub_cancel_left,
        abs_neg, abs_of_nonneg hnonneg]
    rw [hheight]
    show norm (0 * v.width) (r.effective v / v.height * v.height) ≤ _
    rw [zero_mul, div_mul_cancel₀ _ hh.ne', norm_zero_left, abs_of_nonneg hr]

/-- **The handle of a circle that fits is a place to which it can be drawn out.** -/
theorem fitsCircle_between_radiusHandle (h : v.fitsCircle c (r.effective v) = true) :
    v.fitsCircle c ((Radius.between c (radiusHandle c (r.effective v) v)).effective v) = true :=
  fitsCircle_of_le h (effective_between_radiusHandle_le c r v)

namespace Drag

/-! ### One move -/

/-- **A move of the radius is accepted**: the pointer is back where it was pressed, and the radius is
that of the grab, or the radius reaches to the target. The pointer is not ahead of the handle. -/
structure Accepted (c p offset q : Point α) (grabbed r' : Radius α) (blind : Point α) : Prop where
  radius : r' = if q = p then grabbed else .between c (q + offset)
  caughtUp : blind = .origin

/-- **A move of the radius is rejected**: the circle to which it leads does not fit, and the radius
stays what it was. The pointer is ahead of the handle. -/
structure Rejected (v : Viewport α) (c offset q : Point α) (r r' : Radius α) (blind : Point α) :
    Prop where
  misfits : v.fitsCircle c ((Radius.between c (q + offset)).effective v) = false
  radius : r' = r
  gap : blind = q + offset - radiusHandle c (r'.effective v) v
  ahead : blind ≠ .origin

theorem Rejected.not_accepted (h : Rejected v c offset q r r' blind) :
    ¬ Accepted c p offset q grabbed r' blind := fun haccepted => h.ahead haccepted.caughtUp

theorem eq_of_sub_eq_origin {q t : Point α} (h : q - t = .origin) : q = t := by
  obtain ⟨hx, hy⟩ := Point.mk.inj h
  have hx : q.x - t.x = 0 := hx
  have hy : q.y - t.y = 0 := hy
  exact congrArg₂ Point.mk (sub_eq_zero.mp hx) (sub_eq_zero.mp hy)

/-- **What one move does to a circle that fits** whose radius is dragged. -/
theorem accepts_or_rejects (hr : v.fitsCircle c (r.effective v) = true)
    (hgrabbed : v.fitsCircle c (grabbed.effective v) = true) (p offset q before : Point α) :
    ∃ r', (Drag.radius offset p grabbed).apply (.circle c r) q v = .circle c r' ∧
      v.fitsCircle c (r'.effective v) = true ∧
      ((q = p ∨ v.fitsCircle c ((Radius.between c (q + offset)).effective v) = true) ∧
          Accepted c p offset q grabbed r'
            ((Drag.radius offset p grabbed).blind (.circle c r) q v before) ∨
        Rejected v c offset q r r'
          ((Drag.radius offset p grabbed).blind (.circle c r) q v before)) := by
  by_cases hback : q = p
  · -- The pointer is back where it was pressed.
    subst hback
    refine ⟨grabbed, ?_, hgrabbed, Or.inl ⟨Or.inl rfl, (if_pos rfl).symm, ?_⟩⟩
    · simp [apply]
    · simp [Drag.blind]
  cases hfits : v.fitsCircle c ((Radius.between c (q + offset)).effective v) with
  | true =>
    have hat : radiusAt? c (q + offset) v = some (.between c (q + offset)) := if_pos hfits
    refine ⟨.between c (q + offset), ?_, hfits, Or.inl ⟨Or.inr rfl, (if_neg hback).symm, ?_⟩⟩
    · simp [apply, hback, hat]
    · simp [Drag.blind, hat]
  | false =>
    have hat : radiusAt? c (q + offset) v = none := if_neg (by simp [hfits])
    have hblind : (Drag.radius offset p grabbed).blind (.circle c r) q v before =
        q + offset - radiusHandle c (r.effective v) v := by
      simp [Drag.blind, hback, hat]
    refine ⟨r, ?_, hr, Or.inr ⟨hfits, rfl, hblind, fun hzero => ?_⟩⟩
    · simp [apply, hback, hat]
    · -- A target at the place of the handle would have been accepted.
      rw [hblind] at hzero
      rw [eq_of_sub_eq_origin hzero, fitsCircle_between_radiusHandle hr] at hfits
      cases hfits

/-- **The circle keeps its centre and fits after any number of moves.** -/
theorem exists_follow_radius_fits (hgrabbed : v.fitsCircle c (grabbed.effective v) = true)
    (p offset : Point α) (ps : List (Point α)) :
    ∃ r, (Drag.radius offset p grabbed).follow (.circle c grabbed) (ps.map (·, v)) = .circle c r ∧
      v.fitsCircle c (r.effective v) = true := by
  induction ps using List.reverseRecOn with
  | nil => exact ⟨grabbed, rfl, hgrabbed⟩
  | append_singleton ps q ih =>
    obtain ⟨r, hr, hfits⟩ := ih
    obtain ⟨r', hr', hfits', -⟩ := accepts_or_rejects hfits hgrabbed p offset q .origin
    refine ⟨r', ?_, hfits'⟩
    rw [List.map_append, List.map_singleton, follow_concat, hr, hr']

end Drag

/-! ### A press and moves -/

namespace Reshaping

open Drag

/-- **A drag of the radius of a circle that fits.** After every move the circle has its centre and
fits, and the move was either accepted or rejected, compared with the radius that the moves before it
had made. It was accepted exactly if the pointer is back where it was pressed or leads to a circle that
fits, however many moves before it were rejected. -/
theorem radius_drag_accepts_or_rejects (hfits : v.fitsCircle c (grabbed.effective v) = true)
    {e : Editing α} {slop : α}
    (hgrab : (e.pointerDown (.circle c grabbed) p v slop).1 = .grabbed (.handle .radius))
    (ps : List (Point α)) (q : Point α) :
    let offset := radiusHandle c (grabbed.effective v) v - p
    let after := dragged e (.circle c grabbed) p v slop ((ps ++ [q]).map (·, v))
    ∃ r r', (dragged e (.circle c grabbed) p v slop (ps.map (·, v))).geometry = .circle c r ∧
      after.geometry = .circle c r' ∧ v.fitsCircle c (r'.effective v) = true ∧
      Xor (Accepted c p offset q grabbed r' after.session.blind)
        (Rejected v c offset q r r' after.session.blind) ∧
      (Accepted c p offset q grabbed r' after.session.blind ↔
        q = p ∨ v.fitsCircle c ((Radius.between c (q + offset)).effective v) = true) := by
  intro offset after
  obtain ⟨d, hd, -, hfollow⟩ := exists_grabbed hgrab
  cases hd
  obtain ⟨r, hr, hrfits⟩ := exists_follow_radius_fits hfits p offset ps
  have hbefore := (hfollow (ps.map (·, v))).2.trans hr
  obtain ⟨r', hr', hfits', hmove⟩ := accepts_or_rejects hrfits hfits p offset q
    (dragged e (.circle c grabbed) p v slop (ps.map (·, v))).session.blind
  have hmoves : (ps ++ [q]).map (·, v) = ps.map (·, v) ++ [(q, v)] := by simp
  have hafter : after.geometry = .circle c r' := by
    rw [(hfollow _).2, hmoves, follow_concat, hr, hr']
  have hblind := blind_dragged_concat (hfollow (ps.map (·, v))).1 (q, v)
  rw [← hmoves, hbefore] at hblind
  rw [← hblind] at hmove
  refine ⟨r, r', hbefore, hafter, hfits', ?_⟩
  rcases hmove with ⟨hlegal, haccepted⟩ | hrejected
  · exact ⟨Or.inl ⟨haccepted, fun hrejected => hrejected.not_accepted haccepted⟩,
      iff_of_true haccepted hlegal⟩
  · refine ⟨Or.inr ⟨hrejected, hrejected.not_accepted⟩,
      iff_of_false hrejected.not_accepted ?_⟩
    rintro (rfl | hlegal)
    · -- The pointer is back, and so is the target.
      have hmisfits := hrejected.misfits
      rw [Point.add_sub_self, fitsCircle_between_radiusHandle hfits] at hmisfits
      cases hmisfits
    · rw [hrejected.misfits] at hlegal
      cases hlegal

theorem fitsCircle_disc :
    wide.fitsCircle ⟨1 / 2, 1 / 2⟩ ((⟨1 / 8, 0⟩ : Radius ℝ).effective wide) = true := by
  rw [effective_disc, fitsCircle_iff_comparisons]
  norm_num [wide]

/-- The circle is drawn out beyond the surface and then less far. -/
theorem radius_drag_accepts_or_rejects_disc :
    wide.fitsCircle ⟨1 / 2, 1 / 2⟩ ((⟨1 / 8, 0⟩ : Radius ℝ).effective wide) = true ∧
    ((Editing.start .nil).pointerDown disc ⟨1 / 2, 1 / 4⟩ wide 8).1 =
      .grabbed (.handle .radius) ∧
    let offset := radiusHandle ⟨1 / 2, 1 / 2⟩ ((⟨1 / 8, 0⟩ : Radius ℝ).effective wide) wide -
      ⟨1 / 2, 1 / 4⟩
    let after := dragged (.start .nil) disc ⟨1 / 2, 1 / 4⟩ wide 8
      [(⟨1 / 2, -1⟩, wide), (⟨1 / 2, 1 / 8⟩, wide)]
    ∃ r r', (dragged (.start .nil) disc ⟨1 / 2, 1 / 4⟩ wide 8 [(⟨1 / 2, -1⟩, wide)]).geometry =
        .circle ⟨1 / 2, 1 / 2⟩ r ∧
      after.geometry = .circle ⟨1 / 2, 1 / 2⟩ r' ∧
      wide.fitsCircle ⟨1 / 2, 1 / 2⟩ (r'.effective wide) = true ∧
      Xor (Accepted ⟨1 / 2, 1 / 2⟩ ⟨1 / 2, 1 / 4⟩ offset ⟨1 / 2, 1 / 8⟩ ⟨1 / 8, 0⟩ r'
          after.session.blind)
        (Rejected wide ⟨1 / 2, 1 / 2⟩ offset ⟨1 / 2, 1 / 8⟩ r r' after.session.blind) ∧
      (Accepted ⟨1 / 2, 1 / 2⟩ ⟨1 / 2, 1 / 4⟩ offset ⟨1 / 2, 1 / 8⟩ ⟨1 / 8, 0⟩ r'
          after.session.blind ↔
        (⟨1 / 2, 1 / 8⟩ : Point ℝ) = ⟨1 / 2, 1 / 4⟩ ∨
          wide.fitsCircle ⟨1 / 2, 1 / 2⟩
            ((Radius.between ⟨1 / 2, 1 / 2⟩ (⟨1 / 2, 1 / 8⟩ + offset)).effective wide) = true) :=
  ⟨fitsCircle_disc, grabbed_disc,
    radius_drag_accepts_or_rejects fitsCircle_disc grabbed_disc [⟨1 / 2, -1⟩] ⟨1 / 2, 1 / 8⟩⟩

end Reshaping

end ShapeOverlay
