import ShapeOverlay.Proofs.Geometry.LeastBox
import ShapeOverlay.Proofs.Scalar.Range

/-! # Containment of boxes as inclusion

Containment compares the coordinates of two boxes. For the boxes of rectangles it is the inclusion
of their points (`Bounds.points`), whatever the corners are: such a box has points unless neither
corner has a comparable coordinate along one of the axes (`nonempty_points_ofCorners`), and it lies
within another one exactly if it has points and these are points of the other
(`contains_ofCorners_iff`). So strict containment is strict inclusion
(`strictlyContains_ofCorners_iff`).

A box with a coordinate that is comparable with nothing has no points, and neither contains a box
nor lies within one (`le_self_of_mem_points`, `le_self_of_contains`). -/

namespace ShapeOverlay

open Scalar OrderedScalar

namespace Bounds

variable {α : Type} [Scalar α]

/-- The coordinates of the two corners by which a box is given. -/
def coordinates (b : Bounds α) : List α := [b.min.x, b.min.y, b.max.x, b.max.y]

/-- The points that a box contains. -/
def points (b : Bounds α) : Set (Point α) := {p | b.containsPoint p = true}

variable [OrderedScalar α] {b c : Bounds α} {p q r s : Point α}

/-! ### Boxes with points -/

theorem nonempty_points_iff : b.points.Nonempty ↔ b.min.x ≤ b.max.x ∧ b.min.y ≤ b.max.y := by
  constructor
  · rintro ⟨p, hp⟩
    exact ordered_of_containsPoint hp
  · rintro ⟨hx, hy⟩
    exact ⟨b.min, containsPoint_corners hx hy b.min (by simp [corners])⟩

/-- **The box of a rectangle has points** if along either axis one of the corners has a comparable
coordinate: the other corner's coordinate gives way to it. -/
theorem nonempty_points_ofCorners : (ofCorners p q).points.Nonempty ↔
    (p.x ≤ p.x ∨ q.x ≤ q.x) ∧ (p.y ≤ p.y ∨ q.y ≤ q.y) := by
  rw [nonempty_points_iff]
  constructor
  · rintro ⟨hx, hy⟩
    exact ⟨lesser_le_self_iff.mp (le_self_left hx), lesser_le_self_iff.mp (le_self_left hy)⟩
  · rintro ⟨hx, hy⟩
    exact ⟨lesser_le_greater hx, lesser_le_greater hy⟩

/-- The coordinates of a box that has points are comparable with themselves. -/
theorem le_self_of_mem_points (hp : p ∈ b.points) : ∀ a ∈ b.coordinates, a ≤ a := by
  obtain ⟨⟨hx, hx'⟩, hy, hy'⟩ := containsPoint_iff.mp hp
  simp [coordinates, le_self_left hx, le_self_left hy, le_self_right hx', le_self_right hy']

theorem le_self_ofCorners_iff :
    (∀ a ∈ (ofCorners p q).coordinates, a ≤ a) ↔ (ofCorners p q).points.Nonempty := by
  constructor
  · intro h
    have hx : lesser p.x q.x ≤ lesser p.x q.x := h _ (by simp [coordinates, ofCorners])
    have hy : lesser p.y q.y ≤ lesser p.y q.y := h _ (by simp [coordinates, ofCorners])
    exact nonempty_points_ofCorners.mpr ⟨lesser_le_self_iff.mp hx, lesser_le_self_iff.mp hy⟩
  · rintro ⟨r, hr⟩
    exact le_self_of_mem_points hr

/-! ### Inclusion -/

/-- The coordinates of boxes one of which contains the other are comparable with themselves. -/
theorem le_self_of_contains (h : b.contains c = true) :
    (∀ a ∈ b.coordinates, a ≤ a) ∧ ∀ a ∈ c.coordinates, a ≤ a := by
  obtain ⟨h1, h2, h3, h4⟩ := contains_iff.mp h
  constructor
  · simp [coordinates, le_self_left h1, le_self_left h2, le_self_right h3, le_self_right h4]
  · simp [coordinates, le_self_right h1, le_self_right h2, le_self_left h3, le_self_left h4]

theorem contains_iff_subset (hc : c.points.Nonempty) :
    b.contains c = true ↔ c.points ⊆ b.points := by
  obtain ⟨hx, hy⟩ := nonempty_points_iff.mp hc
  constructor
  · intro h p hp
    exact containsPoint_of_contains h hp
  · intro h
    have hmin : b.containsPoint c.min = true :=
      h (containsPoint_corners hx hy c.min (by simp [corners]))
    have hmax : b.containsPoint c.max = true :=
      h (containsPoint_corners hx hy c.max (by simp [corners]))
    rw [containsPoint_iff] at hmin hmax
    exact contains_iff.mpr ⟨hmin.1.1, hmin.2.1, hmax.1.2, hmax.2.2⟩

/-- **The box of a rectangle lies within another box** exactly if it has points and these are
points of the other one. -/
theorem contains_ofCorners_iff : b.contains (ofCorners p q) = true ↔
    (ofCorners p q).points.Nonempty ∧ (ofCorners p q).points ⊆ b.points := by
  constructor
  · intro h
    have hne := le_self_ofCorners_iff.mp (le_self_of_contains h).2
    exact ⟨hne, (contains_iff_subset hne).mp h⟩
  · rintro ⟨hne, hsub⟩
    exact (contains_iff_subset hne).mpr hsub

/-- **Strict containment of the boxes of rectangles is strict inclusion.** -/
theorem strictlyContains_ofCorners_iff : (ofCorners p q).strictlyContains (ofCorners r s) = true ↔
    (ofCorners r s).points.Nonempty ∧ (ofCorners r s).points ⊂ (ofCorners p q).points := by
  rw [strictlyContains_iff, contains_ofCorners_iff, contains_ofCorners_iff, and_assoc]
  refine and_congr_right fun hne => and_congr_right fun hsub => not_congr ?_
  exact and_iff_right (hne.mono hsub)

end Bounds

open Bounds Binary64

/-! ### Floating point coordinates -/

/-- **Strict containment orders the boxes of rectangles**, whatever the coordinates are: no box
strictly contains itself, no two boxes each other, and what lies strictly within a box lies strictly
within all that strictly contain this one. A box with a coordinate that is not a number has no
points, contains no box and lies within none; the box of a rectangle has such a coordinate exactly
if neither corner has a number along one of the axes. One rectangle's box strictly contains
another's exactly if the latter has points and these are some, but not all, of its own. -/
theorem strict_containment_orders_boxes :
    (∀ b : Bounds Float, ¬ b.strictlyContains b = true) ∧
    (∀ b c : Bounds Float, b.strictlyContains c = true → ¬ c.strictlyContains b = true) ∧
    (∀ b c d : Bounds Float, b.strictlyContains c = true → c.strictlyContains d = true →
      b.strictlyContains d = true) ∧
    (∀ b : Bounds Float, (∃ a ∈ b.coordinates, a.isNaN = true) →
      b.points = ∅ ∧ ∀ c : Bounds Float,
        (¬ b.contains c = true ∧ ¬ b.strictlyContains c = true) ∧
        ¬ c.contains b = true ∧ ¬ c.strictlyContains b = true) ∧
    ∀ p q r s : Point Float,
      ((∃ a ∈ (ofCorners p q).coordinates, a.isNaN = true) ↔
        p.x.isNaN = true ∧ q.x.isNaN = true ∨ p.y.isNaN = true ∧ q.y.isNaN = true) ∧
      ((ofCorners p q).strictlyContains (ofCorners r s) = true ↔
        (ofCorners r s).points.Nonempty ∧ (ofCorners r s).points ⊂ (ofCorners p q).points) := by
  simp only [isNaN_iff_not_le_self]
  refine ⟨strictlyContains_irrefl, fun b c => strictlyContains_asymm,
    fun b c d => strictlyContains_trans, ?_, fun p q r s => ⟨?_, strictlyContains_ofCorners_iff⟩⟩
  · rintro b ⟨a, ha, hnot⟩
    refine ⟨Set.eq_empty_of_forall_notMem fun p hp => hnot (le_self_of_mem_points hp a ha),
      fun c => ?_⟩
    have hout : ¬ b.contains c = true := fun h => hnot ((le_self_of_contains h).1 a ha)
    have hin : ¬ c.contains b = true := fun h => hnot ((le_self_of_contains h).2 a ha)
    exact ⟨⟨hout, fun h => hout (strictlyContains_iff.mp h).1⟩,
      hin, fun h => hin (strictlyContains_iff.mp h).1⟩
  · have hbox : (∃ a ∈ (ofCorners p q).coordinates, ¬ a ≤ a) ↔
        ¬ (ofCorners p q).points.Nonempty := by
      rw [← le_self_ofCorners_iff]
      push Not
      rfl
    rw [hbox, nonempty_points_ofCorners]
    tauto

/-- The box of a rectangle that reaches up without end, its lower edge at the negative zero. -/
def shaft : Bounds Float := ofCorners ⟨1, -0⟩ ⟨0, 1 / 0⟩

/-- The box of a rectangle on the same lower edge, given by its other two corners. -/
def pane : Bounds Float := ofCorners ⟨0, 1⟩ ⟨0.75, 0⟩

/-- The box of a rectangle with one corner at no height, which is a single point. -/
def speck : Bounds Float := ofCorners ⟨0.5, 0.25⟩ ⟨0.5, 0 / 0⟩

/-- The box of a rectangle whose sides are at no place. -/
def gap : Bounds Float := ofCorners ⟨0 / 0, 0⟩ ⟨0 / 0, 1⟩

theorem strict_containment_orders_boxes_speck :
    (shaft.strictlyContains pane = true ∧ ¬ pane.strictlyContains shaft = true) ∧
    (pane.strictlyContains speck = true ∧ shaft.strictlyContains speck = true) ∧
    ((∃ a ∈ gap.coordinates, a.isNaN = true) ∧ ¬ shaft.contains gap = true ∧
      ¬ gap.strictlyContains speck = true) ∧
    speck.points ⊂ pane.points := by
  obtain ⟨-, hasymm, htrans, hnone, hrectangles⟩ := strict_containment_orders_boxes
  have hpane : shaft.strictlyContains pane = true := by decide +kernel
  have hspeck : pane.strictlyContains speck = true := by decide +kernel
  have hgap : ∃ a ∈ gap.coordinates, a.isNaN = true := by decide +kernel
  exact ⟨⟨hpane, hasymm _ _ hpane⟩, ⟨hspeck, htrans _ _ _ hpane hspeck⟩,
    ⟨hgap, ((hnone gap hgap).2 shaft).2.1, ((hnone gap hgap).2 speck).1.2⟩,
    ((hrectangles ⟨0, 1⟩ ⟨0.75, 0⟩ ⟨0.5, 0.25⟩ ⟨0.5, 0 / 0⟩).2.mp hspeck).2⟩

-- Zeros of either sign make boxes of which neither strictly contains the other.
example : (ofCorners ⟨1, 1⟩ ⟨0, -0⟩).strictlyContains
    (ofCorners (⟨-0, 1⟩ : Point Float) ⟨1, 0⟩) = false := by decide +kernel

end ShapeOverlay
