import ShapeOverlay.Proofs.Session.DragBack
import ShapeOverlay.Proofs.Geometry.Equality

/-! # Pressing without moving

The pointer can be said to have moved while it still is where it was pressed. With exact numbers such
a move puts the grabbed part where it is: a corner, a vertex and the radius of a circle stay what they
were, and so does a shape on the surface that is held by its mover (`Drag.apply_press_iff`).

A circle may be stored that reaches beyond the surface. Its mover pulls it in on the first move,
wherever that leads, unless the circle is so large that it has nowhere to go (`Geometry.StaysPut`).
This is the only way in which a press without a move edits a shape (`press_without_move`). -/

namespace ShapeOverlay

open Scalar

variable {α : Type} [ExactScalar α]

/-! ### What the mover leaves alone -/

/-- Along one axis, the mover has no reason to move a circle's centre: the circle fits on the surface,
or it is longer than that and starts at the lower edge, as far as its centre can. -/
def CenterStays (center extent : α) : Prop :=
  (extent ≤ center ∧ center + extent ≤ 1) ∨ (1 < extent + extent ∧ center = min extent 1)

/-- **The mover leaves the geometry where it is** until it is led somewhere else. -/
def Geometry.StaysPut (v : Viewport α) : Geometry α → Prop
  | rectangle _ _ | polygon _ => True
  | circle c r => CenterStays c.x (r.reach v).x ∧ CenterStays c.y (r.reach v).y

variable {v : Viewport α} {g : Geometry α} {p : Point α}

theorem Geometry.OnSurface.staysPut (hg : g.OnSurface v) : g.StaysPut v := by
  cases g with
  | rectangle a b => trivial
  | polygon ps => trivial
  | circle c r =>
    obtain ⟨-, hx, hy⟩ := Geometry.onSurface_circle.mp hg
    exact ⟨Or.inl hx, Or.inl hy⟩

/-! ### A drag to where it began -/

namespace Drag

theorem clampUnit_keepWithin_iff {c e : α} (he : 0 ≤ e) :
    clampUnit (keepWithin (c - e) (e + e) + e) = c ↔ CenterStays c e := by
  rcases le_or_gt (e + e) 1 with hfits | hlong
  · obtain ⟨⟨h0, h1⟩, hstart, -⟩ := nearestStart_keepWithin hfits (c - e)
    rw [clampUnit_of_mem (by linarith) (by linarith)]
    constructor
    · intro h
      exact Or.inl ⟨by linarith, by linarith⟩
    · rintro (⟨hlow, hhigh⟩ | ⟨hlong, -⟩)
      · rw [hstart (by linarith) (by linarith)]
        ring
      · exact absurd hfits hlong.not_ge
  · have hstart : keepWithin (c - e) (e + e) = 0 := by
      rw [keepWithin_eq, max_eq_right (by linarith : 1 - (e + e) ≤ 0),
        max_eq_right (min_le_right _ _)]
    have hclamp : clampUnit e = min e 1 := by
      unfold clampUnit
      rw [if_neg he.not_gt]
      split_ifs with h
      · exact (min_eq_right h.le).symm
      · exact (min_eq_left (not_lt.mp h)).symm
    rw [hstart, zero_add, hclamp]
    constructor
    · exact fun h => Or.inr ⟨hlong, h.symm⟩
    · rintro (⟨hlow, hhigh⟩ | ⟨-, h⟩)
      · linarith
      · exact h.symm

theorem dragMover_min_iff {b : Bounds α} (hg : g.InUnitSquare) (hb : g.bounds? v = some b) :
    dragMover g b.min v = g ↔ g.StaysPut v := by
  cases g with
  | rectangle a c => exact iff_of_true (dragMover_min (hg.onSurface nofun v) hb) trivial
  | polygon ps => exact iff_of_true (dragMover_min (hg.onSurface nofun v) hb) trivial
  | circle c r =>
    rw [bounds?_circle] at hb
    cases hb
    obtain ⟨hx, hy⟩ := r.reach_nonneg v
    rw [dragMover_circle hg.radius, Geometry.StaysPut, ← clampUnit_keepWithin_iff hx,
      ← clampUnit_keepWithin_iff hy, Geometry.circle.injEq, and_iff_left rfl]
    exact Point.mk.injEq .. ▸ Iff.rfl

omit [ExactScalar α] in
theorem dragAxis_pick [Scalar α] (isMin : Bool) (s : Slot) (pair : α × α) :
    dragAxis isMin s (s.pick pair) pair = pair := by
  have hput : s.put (s.pick pair) pair = pair := by cases s <;> rfl
  rw [dragAxis_eq, hput, ite_self]

/-- **A drag to where it began changes nothing**, unless the mover pulls a circle in. -/
theorem apply_press_iff {part : EditPart} {d : Drag α} (hg : g.InUnitSquare)
    (hd : Grabbed p v g part d) : d.apply g p v = g ↔ (part = .mover → g.StaysPut v) := by
  cases hd with
  | corner a b c =>
    have hsurface := hg.onSurface (by simp [Geometry.kind]) v
    obtain ⟨ha, hb⟩ := Geometry.onSurface_rectangle.mp hsurface
    refine iff_of_true ?_ (by simp)
    rw [apply, Point.add_sub_self, Point.clamped_of_inUnit (inUnit_corner ha hb c),
      corner_eq_pick, dragCorner, dragAxis_pick, dragAxis_pick]
  | vertex vertices i q hq =>
    have hsurface := hg.onSurface (by simp [Geometry.kind]) v
    refine iff_of_true ?_ (by simp)
    rw [apply, Point.add_sub_self, set_clamped_self hsurface hq]
  | radius c r =>
    refine iff_of_true ?_ (by simp)
    rw [apply, if_pos (Point.beq_self p)]
  | mover g b hb =>
    rw [apply, Point.add_sub_self, dragMover_min_iff hg hb]
    exact ⟨fun h _ => h, fun h => h rfl⟩

end Drag

/-! ### A press and a move to where it was -/

namespace Editing

open Reshaping

variable {e : Editing α} {d : Drag α} {slop : α} {part : EditPart}

/-- What becomes of a drag that has changed nothing yet when the pointer is released after one more
move. -/
theorem pointerMove_pointerUp (hdrag : e.drag = some d) (hmoved : e.moved = false) :
    (e.pointerMove g p v).1 = (if d.apply g p v = g then .ignored else .changed) ∧
      ((e.pointerMove g p v).2.2.pointerUp.2.swallowClick = true ↔ d.apply g p v ≠ g) := by
  by_cases h : d.apply g p v = g
  · simp [pointerMove, pointerUp, hdrag, hmoved, h]
  · simp [pointerMove, pointerUp, hdrag, h]

/-- **A press without a move edits nothing**, with one exception. The part that was grabbed is put
where it is, the geometry stays what it was, and the click after the release is not taken for the end
of a drag. This is so for all that lies on the surface, and for all that is held by another part than
the mover. The exception is the mover of a circle that reaches beyond the surface, which pulls the
circle in. -/
theorem press_without_move (hg : g.InUnitSquare)
    (hgrab : (e.pointerDown g p v slop).1 = .grabbed part) :
    let unmoved := (e.pointerDown g p v slop).2.pointerMove g p v
    (g.OnSurface v → g.StaysPut v) ∧
      ((part = .mover → g.StaysPut v) → unmoved.1 = .ignored ∧ unmoved.2.1 = g ∧
        unmoved.2.2.pointerUp.2.swallowClick = false) ∧
      (part = .mover → ¬ g.StaysPut v → unmoved.1 = .changed ∧ unmoved.2.1 ≠ g ∧
        unmoved.2.2.pointerUp.2.swallowClick = true) := by
  intro unmoved
  obtain ⟨d, hd, hpressed⟩ := grabbed_of_pointerDown hgrab
  have hdrag : (e.pointerDown g p v slop).2.drag = some d := by rw [hpressed]
  have hmoved : (e.pointerDown g p v slop).2.moved = false := by rw [hpressed]
  have hgeometry : unmoved.2.1 = d.apply g p v := (pointerMove_of_drag hdrag).1
  obtain ⟨hstep, hswallow⟩ := pointerMove_pointerUp (g := g) (p := p) (v := v) hdrag hmoved
  have happly := Drag.apply_press_iff hg hd
  refine ⟨Geometry.OnSurface.staysPut, fun hstays => ?_, fun hpart hpulled => ?_⟩
  · have hkept := happly.mpr hstays
    refine ⟨hstep.trans (if_pos hkept), hgeometry.trans hkept, ?_⟩
    exact Bool.eq_false_iff.mpr fun h => hswallow.mp h hkept
  · have hchanged : d.apply g p v ≠ g := fun h => hpulled (happly.mp h hpart)
    exact ⟨hstep.trans (if_neg hchanged), hgeometry ▸ hchanged, hswallow.mpr hchanged⟩

/-- A circle as high as the surface that reaches beyond its left edge. -/
noncomputable def overhanging : Geometry ℝ := .circle ⟨0.125, 0.5⟩ ⟨0.25, 0⟩

theorem inUnitSquare_overhanging : overhanging.InUnitSquare := by
  refine ⟨nofun, fun a ha => ?_, fun a ha => ?_⟩
  · simp only [Geometry.coordinates, overhanging, List.mem_cons, List.not_mem_nil, or_false] at ha
    rcases ha with rfl | rfl <;> norm_num
  · simp only [Geometry.extents, overhanging, List.mem_cons, List.not_mem_nil, or_false] at ha
    rcases ha with rfl | rfl <;> norm_num

theorem effective_overhanging : (⟨0.25, 0⟩ : Radius ℝ).effective wide = 50 := by
  rw [Radius.effective, wide, zero_mul, norm_zero_right]
  norm_num

theorem bounds?_overhanging :
    overhanging.bounds? wide = some (.around ⟨0.125, 0.5⟩ 0.25 0.5) := by
  rw [overhanging, bounds?_circle, Radius.reach, effective_overhanging, isEmpty_wide]
  norm_num [wide]

theorem handles_overhanging : overhanging.handles wide = [(.radius, ⟨0.125, 0⟩)] := by
  simp only [Geometry.handles, overhanging, effective_overhanging, radiusHandle, isEmpty_wide]
  norm_num [wide]

theorem grabbed_overhanging :
    ((Editing.start .nil).pointerDown overhanging ⟨0.125, 0⟩ wide 8).1 =
      .grabbed (.handle .radius) := by
  have hnear : Geometry.isNear wide 8 ⟨0.125, 0⟩ ⟨0.125, 0⟩ = true := by
    norm_num [Geometry.isNear, ExactScalar.abs_eq]
  have hpart : overhanging.hitPart? ⟨0.125, 0⟩ wide 8 = some (.handle .radius) := by
    simp only [Geometry.hitPart?, handles_overhanging, List.reverse_singleton, List.find?_cons,
      hnear]
  simp only [pointerDown, hpart, Drag.ofPart?, handles_overhanging]
  rfl

/-- The circle is pressed at its handle, and stays where it is. -/
theorem press_without_move_overhanging : overhanging.InUnitSquare ∧
    ((Editing.start .nil).pointerDown overhanging ⟨0.125, 0⟩ wide 8).1 =
      .grabbed (.handle .radius) ∧
    let unmoved := ((Editing.start .nil).pointerDown overhanging ⟨0.125, 0⟩ wide 8).2.pointerMove
      overhanging ⟨0.125, 0⟩ wide
    unmoved.1 = .ignored ∧ unmoved.2.1 = overhanging ∧
      unmoved.2.2.pointerUp.2.swallowClick = false := by
  obtain ⟨-, hstays, -⟩ := press_without_move inUnitSquare_overhanging grabbed_overhanging
  exact ⟨inUnitSquare_overhanging, grabbed_overhanging, hstays (by simp)⟩

theorem mover_of_overhanging :
    ((Editing.start .nil).pointerDown overhanging ⟨0.125, 0.5⟩ wide 8).1 = .grabbed .mover := by
  have hfar : Geometry.isNear wide 8 ⟨0.125, 0.5⟩ ⟨0.125, 0⟩ = false := by
    norm_num [Geometry.isNear, wide, Viewport.toPixels, ExactScalar.abs_eq]
  have hcontains : overhanging.contains wide ⟨0.125, 0.5⟩ = true := by
    rw [Geometry.contains, bounds?_overhanging, Option.any_some, Bounds.containsPoint_iff]
    norm_num [Bounds.around]
  have hpart : overhanging.hitPart? ⟨0.125, 0.5⟩ wide 8 = some .mover := by
    simp [Geometry.hitPart?, handles_overhanging, hfar, hcontains]
  simp [pointerDown, hpart, Drag.ofPart?, bounds?_overhanging]

theorem not_staysPut_overhanging : ¬ overhanging.StaysPut wide := by
  have hreach : (⟨0.25, 0⟩ : Radius ℝ).reach wide = ⟨0.25, 0.5⟩ := by
    rw [Radius.reach, effective_overhanging, isEmpty_wide]
    norm_num [wide]
  rintro ⟨hx, -⟩
  rw [hreach] at hx
  unfold CenterStays at hx
  norm_num at hx

/-- The circle is pressed in the middle, and pulled in. -/
theorem press_pulls_circle_in : ¬ ∀ (e : Editing ℝ) (g : Geometry ℝ) (p : Point ℝ)
    (v : Viewport ℝ) (slop : ℝ) (part : EditPart), g.InUnitSquare →
    (e.pointerDown g p v slop).1 = .grabbed part →
      ((e.pointerDown g p v slop).2.pointerMove g p v).1 = .ignored ∧
        ((e.pointerDown g p v slop).2.pointerMove g p v).2.1 = g ∧
        ((e.pointerDown g p v slop).2.pointerMove g p v).2.2.pointerUp.2.swallowClick = false := by
  intro h
  obtain ⟨d, hd, hpressed⟩ := grabbed_of_pointerDown mover_of_overhanging
  have hunmoved := (h _ _ _ _ _ _ inUnitSquare_overhanging mover_of_overhanging).2.1
  rw [hpressed, (pointerMove_of_drag rfl).1, Drag.apply_press_iff inUnitSquare_overhanging hd]
    at hunmoved
  exact not_staysPut_overhanging (hunmoved rfl)

end Editing

end ShapeOverlay
