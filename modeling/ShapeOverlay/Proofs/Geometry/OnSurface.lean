import ShapeOverlay.Proofs.Scalar.Exact
import ShapeOverlay.Proofs.Geometry.UnitSquare
import ShapeOverlay.Proofs.Traversal.Containment

/-! # Geometries on a surface

A geometry lies on a surface if its box lies in the unit square (`Geometry.OnSurface`). What this
asks of the points depends on the kind: those of a rectangle and of a polygon lie in the unit square
(`onSurface_rectangle`, `onSurface_polygon`), and the centre of a circle keeps a distance from the
edges (`onSurface_circle`) which is its reach along either axis (`Radius.reach`).

With exact numbers the box moves as the geometry does (`bounds?_translate`), clamping leaves alone
what lies on the surface (`OnSurface.clamped`), and the test in pixels whether a circle fits agrees
with its box (`fitsCircle_iff`). -/

namespace ShapeOverlay

open Scalar

/-! ### Boxes -/

namespace Bounds

variable {α : Type} [Scalar α]

/-- The unit square. -/
def unit : Bounds α := ⟨.origin, ⟨1, 1⟩⟩

/-- The box moved by a vector. -/
def translate (d : Point α) (b : Bounds α) : Bounds α := ⟨b.min + d, b.max + d⟩

theorem containsPoint_iff {b : Bounds α} {p : Point α} : b.containsPoint p = true ↔
    (b.min.x ≤ p.x ∧ p.x ≤ b.max.x) ∧ b.min.y ≤ p.y ∧ p.y ≤ b.max.y := by
  simp [containsPoint, and_assoc]

section Order
variable [OrderedScalar α] {outer b : Bounds α} {p a : Point α} {ps : List (Point α)}

/-- A box contains a box that takes in a point if it contains both. -/
theorem contains_stretch (hmin : b.min.Has fun x => x ≤ x) (hmax : b.max.Has fun x => x ≤ x)
    (hp : p.Has fun x => x ≤ x) : outer.contains (b.stretch p) = true ↔
      outer.contains b = true ∧ outer.containsPoint p = true := by
  rw [contains_iff, contains_iff, containsPoint_iff]
  simp only [stretch, le_lesser_iff hmin.1 hp.1, le_lesser_iff hmin.2 hp.2,
    greater_le_iff hmax.1 hp.1, greater_le_iff hmax.2 hp.2]
  tauto

theorem contains_foldl_stretch (hmin : b.min.Has fun x => x ≤ x)
    (hmax : b.max.Has fun x => x ≤ x) (hps : ∀ p ∈ ps, p.Has fun x => x ≤ x) :
    outer.contains (ps.foldl stretch b) = true ↔
      outer.contains b = true ∧ ∀ p ∈ ps, outer.containsPoint p = true := by
  induction ps generalizing b with
  | nil => simp
  | cons p ps ih =>
    have hp := hps p (by simp)
    have hmin' : (b.stretch p).min.Has fun x => x ≤ x :=
      ⟨lesser_of (P := fun x => x ≤ x) hmin.1 hp.1, lesser_of (P := fun x => x ≤ x) hmin.2 hp.2⟩
    have hmax' : (b.stretch p).max.Has fun x => x ≤ x :=
      ⟨greater_of (P := fun x => x ≤ x) hmax.1 hp.1, greater_of (P := fun x => x ≤ x) hmax.2 hp.2⟩
    rw [List.foldl_cons, ih hmin' hmax' fun q hq => hps q (by simp [hq]),
      contains_stretch hmin hmax hp, List.forall_mem_cons, and_assoc]

/-- **A box contains the box around some points exactly if it contains them all.** -/
theorem contains_ofPoints? (hps : ∀ p ∈ ps, p.Has fun x => x ≤ x) (h : ofPoints? ps = some b) :
    outer.contains b = true ↔ ∀ p ∈ ps, outer.containsPoint p = true := by
  cases ps with
  | nil => cases h
  | cons p ps =>
    cases h
    have hp := hps p (by simp)
    rw [contains_foldl_stretch hp hp fun q hq => hps q (by simp [hq]), List.forall_mem_cons]
    refine and_congr_left fun _ => ?_
    rw [contains_iff, containsPoint_iff]
    tauto

end Order

end Bounds

/-! ### Geometries -/

section
variable {α : Type} [Scalar α]

/-- The point lies in the unit square. -/
def Point.InUnit (p : Point α) : Prop := (0 ≤ p.x ∧ p.x ≤ 1) ∧ 0 ≤ p.y ∧ p.y ≤ 1

theorem containsPoint_unit {p : Point α} : Bounds.unit.containsPoint p = true ↔ p.InUnit :=
  Bounds.containsPoint_iff

/-- How far a circle extends to either side of its centre, along each axis. -/
def Radius.reach (r : Radius α) (v : Viewport α) : Point α :=
  if v.isEmpty then .origin else ⟨r.effective v / v.width, r.effective v / v.height⟩

theorem bounds?_circle (c : Point α) (r : Radius α) (v : Viewport α) :
    (Geometry.circle c r).bounds? v = some (.around c (r.reach v).x (r.reach v).y) := by
  unfold Geometry.bounds? Radius.reach
  split_ifs <;> rfl

/-- **The geometry lies on a surface** of some size: its box lies in the unit square, and its radius
is not below zero. -/
structure Geometry.OnSurface (v : Viewport α) (g : Geometry α) : Prop where
  extents : ∀ a ∈ g.extents, 0 ≤ a
  box : ∃ b, g.bounds? v = some b ∧ Bounds.unit.contains b = true

end

section Exact
variable {α : Type} [ExactScalar α] {v : Viewport α} {a b c d p : Point α} {r : Radius α}
variable {ps : List (Point α)} {g : Geometry α}

namespace Point

theorem has_le_self (p : Point α) : p.Has fun x => x ≤ x := ⟨le_rfl, le_rfl⟩

theorem clamped_of_inUnit (h : p.InUnit) : p.clamped = p := by
  unfold clamped
  rw [clampUnit_of_mem h.1.1 h.1.2, clampUnit_of_mem h.2.1 h.2.2]

theorem inUnit_clamped (p : Point α) : p.clamped.InUnit :=
  ⟨clampUnit_mem le_rfl, clampUnit_mem le_rfl⟩

theorem add_add (p q r : Point α) : p + q + r = p + (q + r) :=
  congrArg₂ mk (add_assoc p.x q.x r.x) (add_assoc p.y q.y r.y)

theorem add_sub_self (p q : Point α) : p + (q - p) = q :=
  congrArg₂ mk (add_sub_cancel p.x q.x) (add_sub_cancel p.y q.y)

theorem sub_add_sub (p q r : Point α) : q - p + (r - q) = r - p :=
  congrArg₂ mk (sub_add_sub_cancel' q.x p.x r.x) (sub_add_sub_cancel' q.y p.y r.y)

end Point

theorem Radius.reach_nonneg (r : Radius α) (v : Viewport α) :
    0 ≤ (r.reach v).x ∧ 0 ≤ (r.reach v).y := by
  have heff : 0 ≤ r.effective v := ExactScalar.norm_nonneg _ _
  unfold reach
  split_ifs with h
  · exact ⟨le_rfl, le_rfl⟩
  · obtain ⟨hw, hh⟩ := Viewport.not_le_of_not_isEmpty h
    exact ⟨div_nonneg heff (not_le.mp hw).le, div_nonneg heff (not_le.mp hh).le⟩

theorem contains_unit_around {x y : α} : Bounds.unit.contains (.around c x y) = true ↔
    (x ≤ c.x ∧ c.x + x ≤ 1) ∧ y ≤ c.y ∧ c.y + y ≤ 1 := by
  rw [Bounds.contains_iff]
  show 0 ≤ c.x - x ∧ 0 ≤ c.y - y ∧ c.x + x ≤ 1 ∧ c.y + y ≤ 1 ↔ _
  rw [sub_nonneg, sub_nonneg]
  tauto

/-- **The test in pixels agrees with the box**: a circle fits on a surface exactly if its box lies
in the unit square. -/
theorem fitsCircle_iff (hv : v.isEmpty = false) (c : Point α) (r : Radius α) :
    v.fitsCircle c (r.effective v) = true ↔
      ∃ b, (Geometry.circle c r).bounds? v = some b ∧ Bounds.unit.contains b = true := by
  have hempty : ¬ v.isEmpty = true := by simp [hv]
  obtain ⟨hw, hh⟩ := Viewport.not_le_of_not_isEmpty hempty
  have hw : 0 < v.width := not_le.mp hw
  have hh : 0 < v.height := not_le.mp hh
  have hpixels : ∀ {x w e : α}, 0 < w →
      ((0 ≤ x * w - e ↔ e / w ≤ x) ∧ (x * w + e ≤ w ↔ x + e / w ≤ 1)) := by
    intro x w e hw
    constructor
    · rw [sub_nonneg, div_le_iff₀ hw]
    · rw [← le_sub_iff_add_le', ← le_sub_iff_add_le', div_le_iff₀ hw, sub_mul, one_mul]
  have hreach : r.reach v = ⟨r.effective v / v.width, r.effective v / v.height⟩ := if_neg hempty
  simp only [bounds?_circle, Option.some.injEq, exists_eq_left', contains_unit_around, hreach,
    Viewport.fitsCircle, Viewport.toPixels, Bool.and_eq_true, decide_eq_true_eq, (hpixels hw).1,
    (hpixels hw).2, (hpixels hh).1, (hpixels hh).2, and_assoc]

namespace Geometry

theorem onSurface_rectangle : (rectangle a b).OnSurface v ↔ a.InUnit ∧ b.InUnit := by
  have hbox : Bounds.unit.contains (.ofCorners a b) = true ↔ a.InUnit ∧ b.InUnit := by
    rw [Bounds.contains_iff]
    simp only [Bounds.ofCorners, lesser_eq_min, greater_eq_max, le_min_iff, max_le_iff]
    unfold Point.InUnit
    tauto
  constructor
  · rintro ⟨-, _, ⟨⟩, h⟩
    exact hbox.mp h
  · exact fun h => ⟨by simp [extents], _, rfl, hbox.mpr h⟩

theorem onSurface_polygon :
    (polygon ps).OnSurface v ↔ ps ≠ [] ∧ ∀ p ∈ ps, p.InUnit := by
  have hbox : ∀ {b}, Bounds.ofPoints? ps = some b →
      (Bounds.unit.contains b = true ↔ ∀ p ∈ ps, p.InUnit) := by
    intro b hb
    simp only [Bounds.contains_ofPoints? (fun p _ => p.has_le_self) hb, containsPoint_unit]
  constructor
  · rintro ⟨-, b, hb, h⟩
    refine ⟨?_, (hbox hb).mp h⟩
    rintro rfl
    cases hb
  · rintro ⟨hne, h⟩
    obtain ⟨p, ps, rfl⟩ := List.exists_cons_of_ne_nil hne
    exact ⟨by simp [extents], _, rfl, (hbox rfl).mpr h⟩

theorem onSurface_circle_iff_box : (circle c r).OnSurface v ↔ (0 ≤ r.x ∧ 0 ≤ r.y) ∧
    ∃ b, (circle c r).bounds? v = some b ∧ Bounds.unit.contains b = true := by
  have hextents : (∀ a ∈ (circle c r).extents, 0 ≤ a) ↔ 0 ≤ r.x ∧ 0 ≤ r.y := by
    simp [extents]
  exact ⟨fun h => ⟨hextents.mp h.extents, h.box⟩, fun h => ⟨hextents.mpr h.1, h.2⟩⟩

theorem onSurface_circle : (circle c r).OnSurface v ↔ (0 ≤ r.x ∧ 0 ≤ r.y) ∧
    ((r.reach v).x ≤ c.x ∧ c.x + (r.reach v).x ≤ 1) ∧
      (r.reach v).y ≤ c.y ∧ c.y + (r.reach v).y ≤ 1 := by
  simp only [onSurface_circle_iff_box, bounds?_circle, Option.some.injEq, exists_eq_left',
    contains_unit_around]

/-- The centre of a circle on the surface. -/
theorem OnSurface.center (h : (circle c r).OnSurface v) : c.InUnit := by
  obtain ⟨-, hx, hy⟩ := onSurface_circle.mp h
  obtain ⟨hrx, hry⟩ := r.reach_nonneg v
  refine ⟨⟨?_, ?_⟩, ?_, ?_⟩ <;> linarith

/-- **Clamping leaves alone what lies on the surface.** -/
theorem OnSurface.clamped (h : g.OnSurface v) : g.clamped = g := by
  cases g with
  | rectangle a b =>
    obtain ⟨ha, hb⟩ := onSurface_rectangle.mp h
    rw [Geometry.clamped, Point.clamped_of_inUnit ha, Point.clamped_of_inUnit hb]
  | polygon ps =>
    obtain ⟨-, hps⟩ := onSurface_polygon.mp h
    rw [Geometry.clamped, List.map_congr_left fun p hp => Point.clamped_of_inUnit (hps p hp),
      List.map_id']
  | circle c r =>
    obtain ⟨⟨hx, hy⟩, -⟩ := onSurface_circle.mp h
    rw [Geometry.clamped, Point.clamped_of_inUnit h.center, Radius.magnitude,
      ExactScalar.abs_eq, ExactScalar.abs_eq, abs_of_nonneg hx, abs_of_nonneg hy]

/-- A geometry that can be stored lies on the surface, unless it is a circle. -/
theorem InUnitSquare.onSurface (h : g.InUnitSquare) (hkind : g.kind ≠ .circle)
    (v : Viewport α) : g.OnSurface v := by
  have hunit : ∀ p : Point α, p.x ∈ g.coordinates → p.y ∈ g.coordinates → p.InUnit :=
    fun p hx hy => ⟨⟨not_lt.mp (h.coordinates _ hx).1, not_lt.mp (h.coordinates _ hx).2⟩,
      not_lt.mp (h.coordinates _ hy).1, not_lt.mp (h.coordinates _ hy).2⟩
  cases g with
  | rectangle a b =>
    exact onSurface_rectangle.mpr ⟨hunit a (by simp [Geometry.coordinates])
      (by simp [Geometry.coordinates]), hunit b (by simp [Geometry.coordinates])
      (by simp [Geometry.coordinates])⟩
  | polygon ps =>
    refine onSurface_polygon.mpr ⟨?_, fun p hp => hunit p ?_ ?_⟩
    · rintro rfl
      exact absurd (h.vertices [] rfl) (by simp)
    · exact List.mem_flatMap.mpr ⟨p, hp, by simp⟩
    · exact List.mem_flatMap.mpr ⟨p, hp, by simp⟩
  | circle c r => exact absurd rfl hkind

/-- The radius of a circle that can be stored. -/
theorem InUnitSquare.radius (h : (circle c r).InUnitSquare) : 0 ≤ r.x ∧ 0 ≤ r.y :=
  ⟨not_lt.mp (h.extents r.x (by simp [Geometry.extents])),
    not_lt.mp (h.extents r.y (by simp [Geometry.extents]))⟩

/-! ### Moving a geometry -/

theorem extents_translate (g : Geometry α) (d : Point α) :
    (g.translate d).extents = g.extents := by
  cases g <;> rfl

theorem translate_translate (g : Geometry α) (d d' : Point α) :
    (g.translate d).translate d' = g.translate (d + d') := by
  cases g with
  | rectangle a b => simp only [translate, Point.add_add]
  | polygon ps => simp only [translate, List.map_map, Function.comp_def, Point.add_add]
  | circle c r => simp only [translate, Point.add_add]

theorem stretch_translate (b : Bounds α) (p d : Point α) :
    (b.translate d).stretch (p + d) = (b.stretch p).translate d := by
  simp only [Bounds.stretch, Bounds.translate, Point.add_x, Point.add_y, lesser_eq_min,
    greater_eq_max, min_add_add_right, max_add_add_right]
  rfl

theorem foldl_stretch_translate (ps : List (Point α)) (b : Bounds α) (d : Point α) :
    (ps.map (· + d)).foldl Bounds.stretch (b.translate d) =
      (ps.foldl Bounds.stretch b).translate d := by
  induction ps generalizing b with
  | nil => rfl
  | cons p ps ih => rw [List.map_cons, List.foldl_cons, stretch_translate, ih, List.foldl_cons]

/-- **The box moves as the geometry does.** -/
theorem bounds?_translate (g : Geometry α) (d : Point α) (v : Viewport α) :
    (g.translate d).bounds? v = (g.bounds? v).map (Bounds.translate d) := by
  cases g with
  | rectangle a b =>
    simp only [translate, bounds?, Bounds.ofCorners, Point.add_x, Point.add_y, lesser_eq_min,
      greater_eq_max, min_add_add_right, max_add_add_right]
    rfl
  | polygon ps =>
    cases ps with
    | nil => rfl
    | cons p ps => exact congrArg some (foldl_stretch_translate ps ⟨p, p⟩ d)
  | circle c r =>
    have hmove : ∀ x y : α, (⟨x, y⟩ : Point α) + d = ⟨x + d.x, y + d.y⟩ := fun _ _ => rfl
    simp only [translate, bounds?_circle, Option.map_some, Bounds.around, Bounds.translate, hmove,
      sub_add_eq_add_sub, add_right_comm]

theorem bounds?_translate_eq_some {b : Bounds α} (h : g.bounds? v = some b) (d : Point α) :
    (g.translate d).bounds? v = some (b.translate d) := by
  rw [bounds?_translate, h, Option.map_some]

end Geometry

end Exact

end ShapeOverlay
