import ShapeOverlay.Handle
import ShapeOverlay.Proofs.Scalar.Laws

/-! # Geometries in the unit square

`Geometry.Fits N` says that a geometry can be stored: it is complete, no coordinate is below zero or
above one, and no component of a radius is below zero; and that its numbers have the property `N`.
A complete geometry whose numbers have the property fits once it is clamped (`fits_clamped`). The
box of a geometry that fits may reach out of the unit square, but its least corner does not lie
beyond it (`low_bounds?`), which is what keeps infinities apart when a geometry is moved. -/

namespace ShapeOverlay

open Scalar

/-! ### Points and radii -/

section Plane
variable {α : Type} [Scalar α] (N : α → Prop)

/-- Both coordinates have the property. -/
def Point.Has (p : Point α) : Prop := N p.x ∧ N p.y

/-- The point lies in the unit square. -/
def Point.Fits (p : Point α) : Prop := Scalar.Fits N p.x ∧ Scalar.Fits N p.y

/-- Both components have the property. -/
def Radius.Has (r : Radius α) : Prop := N r.x ∧ N r.y

/-- No component is below zero. -/
def Radius.Fits (r : Radius α) : Prop := High N r.x ∧ High N r.y

/-- The numbers of a geometry have the property. -/
def Geometry.Has : Geometry α → Prop
  | .rectangle a b => a.Has N ∧ b.Has N
  | .polygon ps => ∀ p ∈ ps, p.Has N
  | .circle c r => c.Has N ∧ r.Has N

instance [DecidablePred N] (p : Point α) : Decidable (p.Has N) := inferInstanceAs (Decidable (_ ∧ _))

instance [DecidablePred N] (r : Radius α) : Decidable (r.Has N) :=
  inferInstanceAs (Decidable (_ ∧ _))

instance [DecidablePred N] : (g : Geometry α) → Decidable (g.Has N)
  | .rectangle a b => inferInstanceAs (Decidable (a.Has N ∧ b.Has N))
  | .polygon ps => inferInstanceAs (Decidable (∀ p ∈ ps, p.Has N))
  | .circle c r => inferInstanceAs (Decidable (c.Has N ∧ r.Has N))

/-- **The geometry can be stored.** -/
def Geometry.Fits : Geometry α → Prop
  | .rectangle a b => a.Fits N ∧ b.Fits N
  | .polygon ps => 3 ≤ ps.length ∧ ∀ p ∈ ps, p.Fits N
  | .circle c r => c.Fits N ∧ r.Fits N

end Plane

variable {α : Type} [Scalar α] {N S : α → Prop}

/-! ### Coordinates -/

namespace Geometry

/-- The coordinates of the points of a geometry, the center of a circle among them. -/
def coordinates : Geometry α → List α
  | .rectangle a b => [a.x, a.y, b.x, b.y]
  | .polygon ps => ps.flatMap fun p => [p.x, p.y]
  | .circle c _ => [c.x, c.y]

/-- The components of the radius of a geometry, if it has one. -/
def extents : Geometry α → List α
  | .rectangle _ _ | .polygon _ => []
  | .circle _ r => [r.x, r.y]

/-- What every list promises of its geometries. -/
structure InUnitSquare (g : Geometry α) : Prop where
  vertices : ∀ ps, g = .polygon ps → 3 ≤ ps.length
  coordinates : ∀ a ∈ g.coordinates, ¬ a < 0 ∧ ¬ 1 < a
  extents : ∀ a ∈ g.extents, ¬ a < 0

theorem Fits.coordinates {g : Geometry α} (hg : g.Fits N) :
    ∀ a ∈ g.coordinates, Scalar.Fits N a := by
  intro a ha
  cases g with
  | rectangle p q =>
    simp only [Geometry.coordinates, List.mem_cons, List.not_mem_nil, or_false] at ha
    rcases ha with rfl | rfl | rfl | rfl
    · exact hg.1.1
    · exact hg.1.2
    · exact hg.2.1
    · exact hg.2.2
  | polygon ps =>
    obtain ⟨p, hp, ha⟩ := List.mem_flatMap.mp ha
    simp only [List.mem_cons, List.not_mem_nil, or_false] at ha
    rcases ha with rfl | rfl
    · exact (hg.2 p hp).1
    · exact (hg.2 p hp).2
  | circle c r =>
    simp only [Geometry.coordinates, List.mem_cons, List.not_mem_nil, or_false] at ha
    rcases ha with rfl | rfl
    · exact hg.1.1
    · exact hg.1.2

theorem Fits.extents {g : Geometry α} (hg : g.Fits N) : ∀ a ∈ g.extents, High N a := by
  intro a ha
  cases g with
  | rectangle p q => cases ha
  | polygon ps => cases ha
  | circle c r =>
    simp only [Geometry.extents, List.mem_cons, List.not_mem_nil, or_false] at ha
    rcases ha with rfl | rfl
    · exact hg.2.1
    · exact hg.2.2

omit [Scalar α] in
theorem has_of_forall (g : Geometry α) (h : ∀ a, N a) : g.Has N := by
  cases g with
  | rectangle a b => exact ⟨⟨h a.x, h a.y⟩, ⟨h b.x, h b.y⟩⟩
  | polygon ps => exact fun p _ => ⟨h p.x, h p.y⟩
  | circle c r => exact ⟨⟨h c.x, h c.y⟩, ⟨h r.x, h r.y⟩⟩

end Geometry

/-! ### Points and radii that fit -/

theorem Point.Fits.has {p : Point α} (h : p.Fits N) : p.Has N := ⟨h.1.2.2, h.2.2.2⟩

theorem Radius.Fits.has {r : Radius α} (h : r.Fits N) : r.Has N := ⟨h.1.2, h.2.2⟩

theorem Point.Fits.add (hN : Domain N S) {p q : Point α} (hp : p.Fits N) (hq : q.Has N) :
    (p + q).Has N :=
  ⟨hN.add hp.1 hq.1, hN.add hp.2 hq.2⟩

theorem Point.Has.sub (hN : Domain N S) {p q : Point α} (hp : p.Has N) (hq : q.Fits N) :
    (p - q).Has N :=
  ⟨hN.sub hp.1 hq.1, hN.sub hp.2 hq.2⟩

theorem Radius.fits_between (hN : Domain N S) {center edge : Point α} (hc : center.Fits N)
    (he : edge.Has N) : (Radius.between center edge).Fits N :=
  ⟨hN.high_abs (he.sub hN hc).1, hN.high_abs (he.sub hN hc).2⟩

theorem Radius.fits_magnitude (hN : Domain N S) {r : Radius α} (h : r.Has N) :
    r.magnitude.Fits N :=
  ⟨hN.high_abs h.1, hN.high_abs h.2⟩

/-! ### Clamping -/

section Clamp
variable [OrderedScalar α]

theorem Point.fits_origin (hN : Domain N S) : (Point.origin : Point α).Fits N :=
  ⟨hN.fits_zero, hN.fits_zero⟩

theorem Radius.fits_zero (hN : Domain N S) : (Radius.zero : Radius α).Fits N :=
  ⟨hN.fits_zero.high, hN.fits_zero.high⟩

theorem Point.fits_clamped (hN : Domain N S) {p : Point α} (h : p.Has N) : p.clamped.Fits N :=
  ⟨hN.fits_clampUnit h.1, hN.fits_clampUnit h.2⟩

/-- **A complete geometry fits once it is clamped.** -/
theorem Geometry.fits_clamped (hN : Domain N S) {g : Geometry α} (h : g.Has N)
    (hc : g.isComplete = true) : g.clamped.Fits N := by
  cases g with
  | rectangle a b => exact ⟨Point.fits_clamped hN h.1, Point.fits_clamped hN h.2⟩
  | polygon ps =>
    refine ⟨?_, fun p hp => ?_⟩
    · rw [List.length_map]
      exact of_decide_eq_true hc
    · obtain ⟨q, hq, rfl⟩ := List.mem_map.mp hp
      exact Point.fits_clamped hN (h q hq)
  | circle c r => exact ⟨Point.fits_clamped hN h.1, Radius.fits_magnitude hN h.2⟩

end Clamp

/-! ### Viewports -/

/-- The sizes of the surface have the property. -/
def Viewport.Has (S : α → Prop) (v : Viewport α) : Prop := S v.width ∧ S v.height

instance [DecidablePred S] (v : Viewport α) : Decidable (v.Has S) :=
  inferInstanceAs (Decidable (_ ∧ _))

theorem Viewport.not_le_of_not_isEmpty {v : Viewport α} (h : ¬ v.isEmpty = true) :
    ¬ v.width ≤ 0 ∧ ¬ v.height ≤ 0 := by
  simpa [isEmpty] using h

theorem Viewport.fits_toRelative [OrderedScalar α] (hN : Domain N S) {v : Viewport α}
    (hv : v.Has S) {pixel : Point α} (hp : pixel.Has N) : (v.toRelative pixel).Fits N := by
  refine Point.fits_clamped hN ?_
  unfold toRelativeUnclamped
  split_ifs with h
  · exact (Point.fits_origin hN).has
  · obtain ⟨hw, hh⟩ := not_le_of_not_isEmpty h
    exact ⟨hN.div hp.1 hv.1 hw, hN.div hp.2 hv.2 hh⟩

/-- The length of a radius, as a fraction of either axis. -/
theorem Radius.Fits.effective (hN : Domain N S) {v : Viewport α} (hv : v.Has S)
    (h : ¬ v.isEmpty = true) {r : Radius α} (hr : r.Fits N) :
    High N (r.effective v / v.width) ∧ High N (r.effective v / v.height) := by
  obtain ⟨hw, hh⟩ := Viewport.not_le_of_not_isEmpty h
  have heff : High N (r.effective v) :=
    hN.high_norm (hN.mul hr.has.1 hv.1 hw) (hN.mul hr.has.2 hv.2 hh)
  exact ⟨hN.high_div heff hv.1 hw, hN.high_div heff hv.2 hh⟩

/-! ### Boxes and handles -/

namespace Geometry

/-- Stretching a box leaves its least corner among the coordinates. -/
theorem low_stretch : ∀ {ps : List (Point α)} {b : Bounds α}, (∀ p ∈ ps, p.Fits N) →
    Low N b.min.x ∧ Low N b.min.y →
    Low N (ps.foldl Bounds.stretch b).min.x ∧ Low N (ps.foldl Bounds.stretch b).min.y
  | [], _, _, hb => hb
  | p :: ps, b, h, hb => by
    have hp := h p (by simp)
    show Low N (ps.foldl Bounds.stretch (b.stretch p)).min.x ∧ Low N _
    refine low_stretch (fun q hq => h q (List.mem_cons_of_mem p hq)) ⟨?_, ?_⟩
    · exact lesser_of hb.1 hp.1.low
    · exact lesser_of hb.2 hp.2.low

/-- Every coordinate of a corner of a box around two points is one of theirs. -/
theorem fits_corners {p q : Point α} (hp : p.Fits N) (hq : q.Fits N) :
    ∀ c ∈ (Bounds.ofCorners p q).corners, c.Fits N := by
  have hminx : Scalar.Fits N (lesser p.x q.x) := lesser_of hp.1 hq.1
  have hminy : Scalar.Fits N (lesser p.y q.y) := lesser_of hp.2 hq.2
  have hmaxx : Scalar.Fits N (greater p.x q.x) := greater_of hp.1 hq.1
  have hmaxy : Scalar.Fits N (greater p.y q.y) := greater_of hp.2 hq.2
  intro c hc
  simp only [Bounds.corners, Bounds.ofCorners, List.mem_cons, List.not_mem_nil, or_false] at hc
  rcases hc with rfl | rfl | rfl | rfl
  · exact ⟨hminx, hminy⟩
  · exact ⟨hmaxx, hminy⟩
  · exact ⟨hmaxx, hmaxy⟩
  · exact ⟨hminx, hmaxy⟩

/-- The handle of a circle may lie above the surface, but its place is made of numbers. -/
theorem Fits.has_handles (hN : Domain N S) {v : Viewport α} (hv : v.Has S) {g : Geometry α}
    (hg : g.Fits N) {h : Handle × Point α} (hh : h ∈ g.handles v) : h.2.Has N := by
  have hh : h.2 ∈ (g.handles v).map (·.2) := List.mem_map_of_mem hh
  rw [map_snd_handles] at hh
  cases g with
  | rectangle p q => exact (fits_corners hg.1 hg.2 _ hh).has
  | polygon ps => exact (hg.2 _ hh).has
  | circle c r =>
    rw [List.mem_singleton] at hh
    rw [hh]
    unfold radiusHandle
    split_ifs with he
    · exact hg.1.has
    · exact ⟨hg.1.has.1, (hN.low_sub hg.1.2 (hg.2.effective hN hv he).2).2⟩

variable [OrderedScalar α]

/-- **The least corner of the box does not lie beyond the unit square.** -/
theorem Fits.low_bounds? (hN : Domain N S) {v : Viewport α} (hv : v.Has S) {g : Geometry α}
    (hg : g.Fits N) {b : Bounds α} (hb : g.bounds? v = some b) :
    Low N b.min.x ∧ Low N b.min.y := by
  cases g with
  | rectangle p q =>
    cases hb
    exact ⟨lesser_of hg.1.1.low hg.2.1.low, lesser_of hg.1.2.low hg.2.2.low⟩
  | polygon ps =>
    cases ps with
    | nil => cases hb
    | cons p ps =>
      cases hb
      have hp := hg.2 p (by simp)
      exact low_stretch (fun q hq => hg.2 q (List.mem_cons_of_mem p hq)) ⟨hp.1.low, hp.2.low⟩
  | circle c r =>
    unfold Geometry.bounds? at hb
    split_ifs at hb with h
    · cases hb
      have hzero : High N 0 := hN.fits_zero.high
      exact ⟨hN.low_sub hg.1.1 hzero, hN.low_sub hg.1.2 hzero⟩
    · cases hb
      have heff := hg.2.effective hN hv h
      exact ⟨hN.low_sub hg.1.1 heff.1, hN.low_sub hg.1.2 heff.2⟩

end Geometry

end ShapeOverlay
