import ShapeOverlay.Proofs.Geometry.OnSurface
import ShapeOverlay.Proofs.Scalar.Binary64

/-! # Boxes around points are least

The box around some points is their hull (`Bounds.IsHull`): it is ordered, contains them all and lies
within every other box that does. Hulls of the same points are taken for equal, so neither the order
of the points nor their repetition matters, and all that is left open is the sign of a zero.

The points are comparable with themselves (`Point.Has`), nothing else is asked of them; the boxes
they are compared with may have any coordinates. -/

namespace ShapeOverlay

open Scalar OrderedScalar

variable {α : Type} [Scalar α]

namespace Bounds

variable {b c : Bounds α} {ps qs : List (Point α)} {p q : Point α}

/-- **The hull of some points**: an ordered box, the least of those that contain the points. -/
structure IsHull (b : Bounds α) (ps : List (Point α)) : Prop where
  ordered : b.min.x ≤ b.max.x ∧ b.min.y ≤ b.max.y
  containsPoint : ∀ p ∈ ps, b.containsPoint p = true
  least : ∀ outer : Bounds α,
    (∀ p ∈ ps, outer.containsPoint p = true) → outer.contains b = true

/-- Whatever holds of the coordinates of the points holds of the corners of their box. -/
theorem has_foldl_stretch {P : α → Prop} (hmin : b.min.Has P) (hmax : b.max.Has P)
    (hps : ∀ p ∈ ps, p.Has P) :
    (ps.foldl stretch b).min.Has P ∧ (ps.foldl stretch b).max.Has P := by
  induction ps generalizing b with
  | nil => exact ⟨hmin, hmax⟩
  | cons p ps ih =>
    have hp := hps p (by simp)
    exact ih ⟨lesser_of hmin.1 hp.1, lesser_of hmin.2 hp.2⟩
      ⟨greater_of hmax.1 hp.1, greater_of hmax.2 hp.2⟩ fun q hq => hps q (by simp [hq])

theorem has_ofPoints? {P : α → Prop} (hps : ∀ p ∈ ps, p.Has P) (h : ofPoints? ps = some b) :
    b.min.Has P ∧ b.max.Has P := by
  cases ps with
  | nil => cases h
  | cons p ps =>
    cases h
    have hp := hps p (by simp)
    exact has_foldl_stretch hp hp fun q hq => hps q (by simp [hq])

theorem IsHull.congr (h : b.IsHull ps) (hmem : ∀ p, p ∈ qs ↔ p ∈ ps) : b.IsHull qs where
  ordered := h.ordered
  containsPoint p hp := h.containsPoint p ((hmem p).mp hp)
  least outer houter := h.least outer fun p hp => houter p ((hmem p).mpr hp)

variable [OrderedScalar α]

/-- A box that contains a point is ordered. -/
theorem ordered_of_containsPoint (h : b.containsPoint p = true) :
    b.min.x ≤ b.max.x ∧ b.min.y ≤ b.max.y := by
  obtain ⟨⟨hx, hx'⟩, hy, hy'⟩ := containsPoint_iff.mp h
  exact ⟨le_trans hx hx', le_trans hy hy'⟩

/-- **The box around some points is their hull.** -/
theorem isHull_ofPoints? (hne : ps ≠ []) (hps : ∀ p ∈ ps, p.Has fun x => x ≤ x)
    (h : ofPoints? ps = some b) : b.IsHull ps := by
  obtain ⟨hmin, hmax⟩ := has_ofPoints? hps h
  have hself : b.contains b = true := contains_iff.mpr ⟨hmin.1, hmin.2, hmax.1, hmax.2⟩
  have hpoints := (contains_ofPoints? hps h).mp hself
  obtain ⟨p, hp⟩ := List.exists_mem_of_ne_nil ps hne
  exact ⟨ordered_of_containsPoint (hpoints p hp), hpoints,
    fun outer => (contains_ofPoints? hps h).mpr⟩

/-- Hulls of the same points are taken for equal. -/
theorem IsHull.beq (hb : b.IsHull ps) (hc : c.IsHull ps) : (b == c) = true :=
  beq_iff_contains.mpr ⟨hc.least b hb.containsPoint, hb.least c hc.containsPoint⟩

/-- The box that two points span is the hull of both. -/
theorem isHull_ofCorners (hp : p.Has fun x => x ≤ x) (hq : q.Has fun x => x ≤ x) :
    (ofCorners p q).IsHull [p, q] :=
  isHull_ofPoints? (by simp) (by simp [hp, hq]) rfl

/-- An ordered box contains its corners. -/
theorem containsPoint_corners (hx : b.min.x ≤ b.max.x) (hy : b.min.y ≤ b.max.y) :
    ∀ p ∈ b.corners, b.containsPoint p = true := by
  simp only [corners, List.forall_mem_cons, containsPoint_iff, List.not_mem_nil, false_implies,
    implies_true, and_true]
  have hminx := le_self_left hx
  have hmaxx := le_self_right hx
  have hminy := le_self_left hy
  have hmaxy := le_self_right hy
  exact ⟨⟨⟨hminx, hx⟩, hminy, hy⟩, ⟨⟨hx, hmaxx⟩, hminy, hy⟩, ⟨⟨hx, hmaxx⟩, hy, hmaxy⟩,
    ⟨hminx, hx⟩, hy, hmaxy⟩

end Bounds

open Bounds

variable [OrderedScalar α]

/-- **A rectangle and a polygon contain their handles.** -/
theorem Geometry.contains_handles {g : Geometry α} (hg : g.Has fun x => x ≤ x)
    (hkind : g.kind ≠ .circle) (v : Viewport α) :
    ∀ h ∈ g.handles v, g.contains v h.2 = true := by
  have hplaces : ∀ p ∈ (g.handles v).map (·.2), g.contains v p = true := by
    rw [map_snd_handles]
    cases g with
    | rectangle a b =>
      obtain ⟨hx, hy⟩ := (isHull_ofCorners hg.1 hg.2).ordered
      exact containsPoint_corners hx hy
    | polygon ps =>
      intro p hp
      cases hbox : ofPoints? ps with
      | none =>
        cases ps with
        | nil => cases hp
        | cons q qs => cases hbox
      | some b =>
        have hhull := isHull_ofPoints? (List.ne_nil_of_mem hp) hg hbox
        simpa [contains, bounds?, hbox] using hhull.containsPoint p hp
    | circle c r => exact absurd rfl hkind
  exact fun h hh => hplaces h.2 (List.mem_map_of_mem hh)

/-- **Boxes are least.** Points that are comparable with themselves, at least one of them, have a
box: it is ordered, contains every point and lies within every box that contains them all. Points
that are the same but for their order and their repetition have the same box, two points have the
box that they span either way round, and so the box of a rectangle or of a polygon contains all of
its handles. -/
theorem boxes_are_least :
    (∀ ps : List (Point α), ps ≠ [] → (∀ p ∈ ps, p.Has fun x => x ≤ x) →
      ∃ b, ofPoints? ps = some b ∧ b.IsHull ps ∧
        ∀ qs, (∀ p, p ∈ qs ↔ p ∈ ps) → ∃ c, ofPoints? qs = some c ∧ (c == b) = true) ∧
    (∀ p q : Point α, p.Has (fun x => x ≤ x) → q.Has (fun x => x ≤ x) →
      ofPoints? [p, q] = some (ofCorners p q) ∧ (ofCorners q p == ofCorners p q) = true) ∧
    ∀ (g : Geometry α) (v : Viewport α), g.kind ≠ .circle → g.Has (fun x => x ≤ x) →
      ∀ h ∈ g.handles v, g.contains v h.2 = true := by
  have hbox : ∀ ps : List (Point α), ps ≠ [] → (∀ p ∈ ps, p.Has fun x => x ≤ x) →
      ∃ b, ofPoints? ps = some b ∧ b.IsHull ps := by
    intro ps hne hps
    obtain ⟨p, ps, rfl⟩ := List.exists_cons_of_ne_nil hne
    exact ⟨_, rfl, isHull_ofPoints? hne hps rfl⟩
  refine ⟨fun ps hne hps => ?_, fun p q hp hq => ⟨rfl, ?_⟩, fun g v hkind hg => ?_⟩
  · obtain ⟨b, hb, hhull⟩ := hbox ps hne hps
    refine ⟨b, hb, hhull, fun qs hmem => ?_⟩
    obtain ⟨p, hp⟩ := List.exists_mem_of_ne_nil ps hne
    obtain ⟨c, hc, hhull'⟩ := hbox qs (List.ne_nil_of_mem ((hmem p).mpr hp))
      fun q hq => hps q ((hmem q).mp hq)
    exact ⟨c, hc, hhull'.beq (hhull.congr hmem)⟩
  · have hswap : ∀ r, r ∈ [q, p] ↔ r ∈ [p, q] := by simp [or_comm]
    exact (isHull_ofCorners hq hp).beq ((isHull_ofCorners hp hq).congr hswap)
  · exact Geometry.contains_handles hg hkind v

/-- The vertices of a triangle, one of them given twice. -/
def zigzag : List (Point Float) := [⟨0.25, 0.75⟩, ⟨0.5, 0⟩, ⟨0.25, 0.75⟩, ⟨1, 0.5⟩]

theorem boxes_are_least_zigzag :
    (zigzag ≠ [] ∧ (∀ p ∈ zigzag, p.Has fun x => x ≤ x) ∧
      ∃ b, ofPoints? zigzag = some b ∧ b.IsHull zigzag ∧
        ∃ c, ofPoints? (zigzag.reverse ++ zigzag) = some c ∧ (c == b) = true) ∧
    (ofCorners (⟨0.5, 0⟩ : Point Float) ⟨0.25, 0.75⟩ == ofCorners ⟨0.25, 0.75⟩ ⟨0.5, 0⟩) = true ∧
    ∀ h ∈ (Geometry.polygon zigzag).handles ⟨100, 100⟩,
      (Geometry.polygon zigzag).contains ⟨100, 100⟩ h.2 = true := by
  have hnumbers : ∀ p ∈ zigzag, p.Has fun x => x ≤ x := by
    show ∀ p ∈ zigzag, p.x ≤ p.x ∧ p.y ≤ p.y
    decide +kernel
  have hne : zigzag ≠ [] := by simp [zigzag]
  obtain ⟨hlists, hpairs, hhandles⟩ := boxes_are_least (α := Float)
  obtain ⟨b, hb, hhull, hsame⟩ := hlists zigzag hne hnumbers
  have hmem : ∀ p, p ∈ zigzag.reverse ++ zigzag ↔ p ∈ zigzag := by simp
  refine ⟨⟨hne, hnumbers, b, hb, hhull, hsame _ hmem⟩, ?_, ?_⟩
  · exact (hpairs _ _ (hnumbers _ (by simp [zigzag])) (hnumbers _ (by simp [zigzag]))).2
  · exact hhandles _ _ (by simp [Geometry.kind]) hnumbers

example : ofPoints? zigzag = some ⟨⟨0.25, 0⟩, ⟨1, 0.75⟩⟩ := by decide +kernel

end ShapeOverlay
