import ShapeOverlay.Proofs.Session.MoverDrag

/-! # Editing keeps a shape on the surface

Each drag has a guard of its own: corners and vertices are clamped, a radius is taken over only if
the circle fits, and the mover stops where the box would leave the surface. With exact numbers all
of them keep a geometry on the surface (`Drag.onSurface_apply`), if the radius that a drag may
restore does so too (`Drag.Restores`). A press takes over the radius of a circle that is on the
surface, and so both last from event to event (`Reshaping.Sound.feed`). -/

namespace ShapeOverlay

open Scalar

variable {α : Type} [ExactScalar α] {g : Geometry α} {d : Drag α} {p : Point α} {v : Viewport α}

namespace Drag

/-- A radius that the drag may restore keeps the circle on the surface. -/
def Restores (v : Viewport α) : Drag α → Geometry α → Prop
  | .radius _ _ grabbed, .circle c _ => (Geometry.circle c grabbed).OnSurface v
  | _, _ => True

/-- A circle that is drawn out to a radius that fits lies on the surface. -/
theorem onSurface_radiusAt? {c t : Point α} {r : Radius α} (hc : c.InUnit)
    (h : radiusAt? c t v = some r) : (Geometry.circle c r).OnSurface v := by
  unfold radiusAt? at h
  dsimp only at h
  split_ifs at h with hfits
  cases h
  have hradius : 0 ≤ (Radius.between c t).x ∧ 0 ≤ (Radius.between c t).y := by
    simp only [Radius.between, ExactScalar.abs_eq]
    exact ⟨abs_nonneg _, abs_nonneg _⟩
  cases hv : v.isEmpty with
  | true =>
    -- On an empty surface the box is the centre alone, whatever the radius.
    have hreach : (Radius.between c t).reach v = .origin := if_pos hv
    rw [Geometry.onSurface_circle, hreach]
    refine ⟨hradius, ⟨hc.1.1, ?_⟩, hc.2.1, ?_⟩
    · exact (add_zero c.x).trans_le hc.1.2
    · exact (add_zero c.y).trans_le hc.2.2
  | false => exact Geometry.onSurface_circle_iff_box.mpr ⟨hradius, (fitsCircle_iff hv c _).mp hfits⟩

/-- **A drag keeps a geometry on the surface.** -/
theorem onSurface_apply (hg : g.OnSurface v) (hd : d.Restores v g) (p : Point α) :
    (d.apply g p v).OnSurface v := by
  unfold apply
  split
  · next c xSlot ySlot offset a b =>
    obtain ⟨ha, hb⟩ := Geometry.onSurface_rectangle.mp hg
    have ht : (p + offset).clamped.InUnit := Point.inUnit_clamped _
    have hx := dragAxis_of (P := fun x => 0 ≤ x ∧ x ≤ 1) ht.1 ⟨ha.1, hb.1⟩ c.isMinX xSlot
    have hy := dragAxis_of (P := fun y => 0 ≤ y ∧ y ≤ 1) ht.2 ⟨ha.2, hb.2⟩ c.isMinY ySlot
    exact Geometry.onSurface_rectangle.mpr ⟨⟨hx.1, hy.1⟩, hx.2, hy.2⟩
  · next i offset vertices =>
    obtain ⟨hne, hps⟩ := Geometry.onSurface_polygon.mp hg
    refine Geometry.onSurface_polygon.mpr ⟨by simpa using hne, fun q hq => ?_⟩
    rcases List.mem_or_eq_of_mem_set hq with hq | rfl
    · exact hps q hq
    · exact Point.inUnit_clamped _
  · next offset origin grabbed c r =>
    split_ifs
    · exact hd
    · cases h : radiusAt? c (p + offset) v with
      | none => exact hg
      | some r' => exact onSurface_radiusAt? hg.center h
  · obtain ⟨b, hb, -⟩ := hg.box
    exact (dragMover_of_onSurface hg hb _).2
  · exact hg

theorem Restores.apply (hd : d.Restores v g) (p : Point α) : d.Restores v (d.apply g p v) := by
  cases d with
  | corner c xSlot ySlot offset => trivial
  | vertex i offset => trivial
  | radius offset origin grabbed =>
    cases g with
    | rectangle a b => trivial
    | polygon ps => trivial
    | circle c r => exact hd
  | mover offset => trivial

theorem restores_of_grabbed {part : EditPart} (hg : g.OnSurface v) (h : Grabbed p v g part d) :
    d.Restores v g := by
  cases h with
  | radius c r => exact hg
  | corner a b c => trivial
  | vertex vertices i w hw => trivial
  | mover g b hb => trivial

end Drag

/-! ### Runs -/

namespace Reshaping

open Editing

/-- The geometry lies on the surface, and nothing that the session remembers leads off it. -/
structure Sound (v : Viewport α) (r : Reshaping α) : Prop where
  geometry : r.geometry.OnSurface v
  drag : ∀ d, r.session.drag = some d → d.Restores v r.geometry

variable {r : Reshaping α}

/-- **One event keeps the geometry on the surface.** -/
theorem Sound.feed (h : r.Sound v) {t : Touch α} (ht : t.IsOn v) : (r.feed t).Sound v := by
  cases t with
  | down p w slop =>
    cases ht
    refine ⟨h.geometry, fun d hd => ?_⟩
    rcases r.session.pointerDown_cases r.geometry p v slop with hignored | ⟨_, d', hd', hgrabbed⟩
    · simp only [Reshaping.feed, hignored] at hd ⊢
      exact h.drag d hd
    · simp only [Reshaping.feed, hgrabbed] at hd ⊢
      cases hd
      exact Drag.restores_of_grabbed h.geometry hd'
  | move p w =>
    cases ht
    cases hdrag : r.session.drag with
    | none =>
      have hsame : r.feed (.move p v) = r := by
        simp only [Reshaping.feed, pointerMove, hdrag]
      rw [hsame]
      exact h
    | some d =>
      obtain ⟨hkept, hmoved, -⟩ := feed_move_of_drag hdrag (p, v)
      have hd := h.drag d hdrag
      refine ⟨?_, fun d' hd' => ?_⟩
      · rw [hmoved]
        exact Drag.onSurface_apply h.geometry hd p
      · cases hkept.symm.trans hd'
        rw [hmoved]
        exact hd.apply p
  | up =>
    refine ⟨h.geometry, fun d hd => ?_⟩
    cases (drag_pointerUp r.session).symm.trans hd
  | click p w slop =>
    refine ⟨h.geometry, fun d hd => h.drag d ?_⟩
    exact (drag_click r.session r.geometry p w slop).symm.trans hd

theorem Sound.run (h : r.Sound v) {touches : List (Touch α)} (ht : ∀ t ∈ touches, t.IsOn v) :
    (r.run touches).Sound v := by
  induction touches generalizing r with
  | nil => exact h
  | cons t touches ih => exact ih (h.feed (ht t (by simp))) fun u hu => ht u (by simp [hu])

/-- **Whatever the pointer does on a surface, the geometry stays on it**: its box lies in the unit
square after every touch, and with it every point that it is made of. For a circle, the test in
pixels that stops the drag of its radius agrees with its box. -/
theorem stays_on_surface (hg : g.OnSurface v) (target : Identifier) {touches : List (Touch α)}
    (ht : ∀ t ∈ touches, t.IsOn v) :
    (run ⟨.start target, g⟩ touches).geometry.OnSurface v ∧
      (v.isEmpty = false → ∀ c r, v.fitsCircle c (r.effective v) = true ↔
        ∃ b, (Geometry.circle c r).bounds? v = some b ∧ Bounds.unit.contains b = true) := by
  have hstart : Sound v ⟨.start target, g⟩ := ⟨hg, nofun⟩
  exact ⟨(hstart.run ht).geometry, fun hv c r => fitsCircle_iff hv c r⟩

/-- A surface twice as wide as it is high. -/
noncomputable def wide : Viewport ℝ := ⟨200, 100⟩

/-- A circle whose radius is given along one axis only. -/
noncomputable def disc : Geometry ℝ := .circle ⟨1 / 2, 1 / 2⟩ ⟨1 / 8, 0⟩

theorem isEmpty_wide : wide.isEmpty = false := by
  norm_num [Viewport.isEmpty, wide]

theorem effective_disc : (⟨1 / 8, 0⟩ : Radius ℝ).effective wide = 25 := by
  have hsquare : (1 / 8 * 200 * (1 / 8 * 200) + 0 * 100 * (0 * 100) : ℝ) = 25 * 25 := by norm_num
  show √(1 / 8 * 200 * (1 / 8 * 200) + 0 * 100 * (0 * 100)) = (25 : ℝ)
  rw [hsquare]
  exact Real.sqrt_mul_self (by norm_num)

theorem onSurface_disc : disc.OnSurface wide := by
  have hreach : (⟨1 / 8, 0⟩ : Radius ℝ).reach wide = ⟨1 / 8, 1 / 4⟩ := by
    unfold Radius.reach
    rw [isEmpty_wide, effective_disc]
    norm_num [wide]
  unfold disc
  rw [Geometry.onSurface_circle, hreach]
  norm_num

/-- The circle is drawn out at its handle, then too far, and it is dragged into a corner. -/
noncomputable def drawnOut : List (Editing.Touch ℝ) :=
  [.down ⟨1 / 2, 1 / 4⟩ wide 8, .move ⟨1 / 2, 1 / 8⟩ wide, .move ⟨0, 0⟩ wide, .up,
    .click ⟨0, 0⟩ wide 8, .down ⟨1 / 2, 1 / 2⟩ wide 8, .move ⟨1, 1⟩ wide]

theorem stays_on_surface_drawnOut : disc.OnSurface wide ∧ (∀ t ∈ drawnOut, t.IsOn wide) ∧
    wide.isEmpty = false ∧ (run ⟨.start .nil, disc⟩ drawnOut).geometry.OnSurface wide ∧
    ∀ c r, wide.fitsCircle c (r.effective wide) = true ↔
      ∃ b, (Geometry.circle c r).bounds? wide = some b ∧ Bounds.unit.contains b = true := by
  have ht : ∀ t ∈ drawnOut, t.IsOn wide := by simp [drawnOut, Editing.Touch.IsOn]
  obtain ⟨hrun, hfits⟩ := stays_on_surface onSurface_disc .nil ht
  exact ⟨onSurface_disc, ht, isEmpty_wide, hrun, hfits isEmpty_wide⟩

end Reshaping

end ShapeOverlay
