import ShapeOverlay.Proofs.Geometry.OnSurface
import ShapeOverlay.Proofs.Session.Reshaping

/-! # Dragging the whole shape, and dragging a vertex

With exact numbers these drags depend on where the pointer is and not on the way it took.

The mover takes a box to the place nearest to its target where it fits (`NearestStart`), and a
geometry on the surface goes along unchanged (`dragMover_of_onSurface`). The place depends on the
size of the box only, which the move has not changed, and so a second move makes the first one
forgotten (`dragMover_dragMover`). A circle need not fit on the surface at all; then clamping moves
its centre, but again to a place that depends on its size only (`dragMover_circle`). -/

namespace ShapeOverlay

open Scalar

variable {α : Type} [ExactScalar α]

/-! ### The nearest start of an extent -/

/-- **The place where an extent can start within the unit range that is nearest to a target.** It is
the target itself if the extent fits there, and no other place where it fits is nearer. -/
structure NearestStart (extent target start : α) : Prop where
  within : 0 ≤ start ∧ start + extent ≤ 1
  fits : 0 ≤ target → target + extent ≤ 1 → start = target
  nearest : ∀ t, 0 ≤ t → t + extent ≤ 1 → |target - start| ≤ |target - t|

namespace Drag

theorem keepWithin_eq (t e : α) : keepWithin t e = max (min t (max (1 - e) 0)) 0 := by
  unfold keepWithin
  rw [greater_eq_max, lesser_eq_min, greater_eq_max]

theorem nearestStart_keepWithin {e : α} (he : e ≤ 1) (t : α) :
    NearestStart e t (keepWithin t e) := by
  have hlast : max (1 - e) 0 = 1 - e := max_eq_left (sub_nonneg.mpr he)
  rw [keepWithin_eq, hlast]
  rcases le_total t 0 with h0 | h0
  · -- The target lies before the unit range.
    rw [max_eq_right ((min_le_left _ _).trans h0)]
    refine ⟨⟨le_rfl, by linarith⟩, fun h _ => le_antisymm h h0, fun u hu _ => ?_⟩
    rw [abs_of_nonpos (by linarith), abs_of_nonpos (by linarith)]
    linarith
  rcases le_total t (1 - e) with h1 | h1
  · rw [min_eq_left h1, max_eq_left h0]
    refine ⟨⟨h0, by linarith⟩, fun _ _ => rfl, fun u _ _ => ?_⟩
    rw [sub_self, abs_zero]
    exact abs_nonneg _
  · -- The extent would end behind the unit range.
    rw [min_eq_right h1, max_eq_left (sub_nonneg.mpr he)]
    refine ⟨⟨by linarith, by linarith⟩, fun _ h => by linarith, fun u _ hu => ?_⟩
    rw [abs_of_nonneg (by linarith), abs_of_nonneg (by linarith)]
    linarith

variable {g : Geometry α} {b : Bounds α} {d : Drag α} {v : Viewport α} {t : Point α}

/-! ### One move of the mover -/

/-- Where a box starts that is dragged to a target and kept on the surface. -/
def landing (target : Point α) (b : Bounds α) : Point α :=
  ⟨keepWithin target.x b.width, keepWithin target.y b.height⟩

theorem dragMover_eq (hb : g.bounds? v = some b) (t : Point α) :
    dragMover g t v = (g.translate (landing t b - b.min)).clamped := by
  unfold dragMover
  rw [hb]
  rfl

theorem landing_translate (t : Point α) (b : Bounds α) (d : Point α) :
    landing t (b.translate d) = landing t b := by
  unfold landing Bounds.width Bounds.height
  show (⟨keepWithin t.x (b.max.x + d.x - (b.min.x + d.x)),
    keepWithin t.y (b.max.y + d.y - (b.min.y + d.y))⟩ : Point α) = _
  rw [add_sub_add_right_eq_sub, add_sub_add_right_eq_sub]

theorem min_translate_landing (t : Point α) (b : Bounds α) :
    (b.translate (landing t b - b.min)).min = landing t b := Point.add_sub_self _ _

/-- A box in the unit square is no longer than that. -/
theorem extent_le_one (hb : Bounds.unit.contains b = true) : b.width ≤ 1 ∧ b.height ≤ 1 := by
  obtain ⟨hminx, hminy, hmaxx, hmaxy⟩ := Bounds.contains_iff.mp hb
  have hminx : 0 ≤ b.min.x := hminx
  have hminy : 0 ≤ b.min.y := hminy
  have hmaxx : b.max.x ≤ 1 := hmaxx
  have hmaxy : b.max.y ≤ 1 := hmaxy
  unfold Bounds.width Bounds.height
  constructor <;> linarith

theorem nearestStart_landing (hb : Bounds.unit.contains b = true) (t : Point α) :
    NearestStart b.width t.x (landing t b).x ∧ NearestStart b.height t.y (landing t b).y :=
  ⟨nearestStart_keepWithin (extent_le_one hb).1 t.x,
    nearestStart_keepWithin (extent_le_one hb).2 t.y⟩

theorem contains_translate_landing (hb : Bounds.unit.contains b = true) (t : Point α) :
    Bounds.unit.contains (b.translate (landing t b - b.min)) = true := by
  obtain ⟨hx, hy⟩ := nearestStart_landing hb t
  have hx0 : 0 ≤ (landing t b).x := hx.within.1
  have hy0 : 0 ≤ (landing t b).y := hy.within.1
  have hx1 : (landing t b).x + (b.max.x - b.min.x) ≤ 1 := hx.within.2
  have hy1 : (landing t b).y + (b.max.y - b.min.y) ≤ 1 := hy.within.2
  rw [Bounds.contains_iff]
  show 0 ≤ b.min.x + ((landing t b).x - b.min.x) ∧ 0 ≤ b.min.y + ((landing t b).y - b.min.y) ∧
    b.max.x + ((landing t b).x - b.min.x) ≤ 1 ∧ b.max.y + ((landing t b).y - b.min.y) ≤ 1
  refine ⟨?_, ?_, ?_, ?_⟩ <;> linarith

/-- **What lies on the surface is moved as a whole and stays there.** -/
theorem dragMover_of_onSurface (hg : g.OnSurface v) (hb : g.bounds? v = some b) (t : Point α) :
    dragMover g t v = g.translate (landing t b - b.min) ∧ (dragMover g t v).OnSurface v := by
  obtain ⟨b', hb', hunit⟩ := hg.box
  cases hb.symm.trans hb'
  have hmoved : (g.translate (landing t b - b.min)).OnSurface v := by
    refine ⟨?_, b.translate (landing t b - b.min), ?_, contains_translate_landing hunit t⟩
    · rw [Geometry.extents_translate]
      exact hg.extents
    · exact Geometry.bounds?_translate_eq_some hb _
  rw [dragMover_eq hb, hmoved.clamped]
  exact ⟨rfl, hmoved⟩

/-- Wherever a circle is, the mover takes it to a place that depends on its size only. -/
theorem dragMover_circle {c : Point α} {r : Radius α} (hr : 0 ≤ r.x ∧ 0 ≤ r.y) (t : Point α)
    (v : Viewport α) : dragMover (.circle c r) t v =
      .circle (Point.clamped ⟨keepWithin t.x ((r.reach v).x + (r.reach v).x) + (r.reach v).x,
        keepWithin t.y ((r.reach v).y + (r.reach v).y) + (r.reach v).y⟩) r := by
  have hsize : ∀ c e : α, c + e - (c - e) = e + e := fun c e => by ring
  have hplace : ∀ c s e : α, c + (s - (c - e)) = s + e := fun c s e => by ring
  have hmove : ∀ q : Point α, c + q = ⟨c.x + q.x, c.y + q.y⟩ := fun _ => rfl
  rw [dragMover_eq (bounds?_circle c r v)]
  simp only [Geometry.translate, Geometry.clamped, landing, Bounds.width, Bounds.height,
    Bounds.around, hmove, Point.sub_x, Point.sub_y, hsize, hplace, Radius.magnitude,
    ExactScalar.abs_eq, abs_of_nonneg hr.1, abs_of_nonneg hr.2]

/-! ### Moves after one another -/

/-- **A second move of the mover makes the first one forgotten.** -/
theorem dragMover_dragMover_of_onSurface (hg : g.OnSurface v) (s t : Point α) :
    dragMover (dragMover g s v) t v = dragMover g t v := by
  obtain ⟨b, hb, -⟩ := hg.box
  obtain ⟨hfirst, hfirstOn⟩ := dragMover_of_onSurface hg hb s
  have hb' : (dragMover g s v).bounds? v = some (b.translate (landing s b - b.min)) := by
    rw [hfirst]
    exact Geometry.bounds?_translate_eq_some hb _
  rw [(dragMover_of_onSurface hfirstOn hb' t).1, (dragMover_of_onSurface hg hb t).1, hfirst,
    Geometry.translate_translate, landing_translate, min_translate_landing, Point.sub_add_sub]

theorem dragMover_dragMover (hg : g.InUnitSquare) (v : Viewport α) (s t : Point α) :
    dragMover (dragMover g s v) t v = dragMover g t v := by
  cases g with
  | rectangle a b => exact dragMover_dragMover_of_onSurface (hg.onSurface nofun v) s t
  | polygon ps => exact dragMover_dragMover_of_onSurface (hg.onSurface nofun v) s t
  | circle c r =>
    -- The circle need not fit on the surface, but its size stays the same.
    rw [dragMover_circle hg.radius, dragMover_circle hg.radius, dragMover_circle hg.radius]

/-- **The last move decides** if of two moves only the second one matters. -/
theorem follow_of_absorbs
    (h : ∀ p q : Point α, d.apply (d.apply g p v) q v = d.apply g q v) (ps : List (Point α))
    (q : Point α) : d.follow g ((ps ++ [q]).map (·, v)) = d.apply g q v := by
  rw [List.map_append, List.map_singleton, follow_concat]
  induction ps using List.reverseRecOn generalizing q with
  | nil => rfl
  | append_singleton ps p ih =>
    rw [List.map_append, List.map_singleton, follow_concat]
    show d.apply (d.apply _ p v) q v = _
    rw [ih p, h]

theorem follow_mover (h : ∀ s t : Point α, dragMover (dragMover g s v) t v = dragMover g t v)
    (offset : Point α) (ps : List (Point α)) (q : Point α) :
    (Drag.mover offset).follow g ((ps ++ [q]).map (·, v)) = dragMover g (q + offset) v := by
  have habsorbs : ∀ s t : Point α, (Drag.mover offset).apply ((Drag.mover offset).apply g s v) t v =
      (Drag.mover offset).apply g t v := fun _ _ => h _ _
  exact follow_of_absorbs habsorbs ps q

theorem follow_vertex (i : Nat) (offset : Point α) (vertices ps : List (Point α)) (q : Point α) :
    (Drag.vertex i offset).follow (.polygon vertices) ((ps ++ [q]).map (·, v)) =
      .polygon (vertices.set i (q + offset).clamped) := by
  refine follow_of_absorbs (fun s t => ?_) ps q
  simp only [apply, List.set_set]

end Drag

/-! ### A press and moves -/

namespace Reshaping

open Drag

/-- **The geometry has been moved as a whole** by a vector, so that its box starts as near to a
target as the surface allows. -/
structure Carried (v : Viewport α) (b : Bounds α) (target d : Point α) (g g' : Geometry α) :
    Prop where
  moved : g' = g.translate d
  box : g'.bounds? v = some (b.translate d)
  x : NearestStart b.width target.x (b.translate d).min.x
  y : NearestStart b.height target.y (b.translate d).min.y

/-- **What the drag of the mover or of a vertex makes of a geometry** that was pressed at the one
point and dragged to the other. A rectangle or a polygon is moved as a whole, by its box; a circle
keeps its radius; of a polygon whose vertex is dragged the other vertices stay where they are. -/
inductive Displaced (v : Viewport α) (p q : Point α) : EditPart → Geometry α → Geometry α → Prop
  | whole {g g' : Geometry α} {b : Bounds α} {d : Point α} (kind : g.kind ≠ .circle)
    (box : g.bounds? v = some b) (carried : Carried v b (q + (b.min - p)) d g g') :
    Displaced v p q .mover g g'
  | circle (c c' : Point α) (r : Radius α) : Displaced v p q .mover (.circle c r) (.circle c' r)
  | vertex (vertices : List (Point α)) (i : Nat) (w : Point α) (vertex : vertices[i]? = some w) :
    Displaced v p q (.handle (.vertex i)) (.polygon vertices)
      (.polygon (vertices.set i (q + (w - p)).clamped))

variable {g : Geometry α} {b : Bounds α} {v : Viewport α}

theorem carried_dragMover (hg : g.OnSurface v) (hb : g.bounds? v = some b) (t : Point α) :
    Carried v b t (landing t b - b.min) g (dragMover g t v) := by
  obtain ⟨b', hb', hunit⟩ := hg.box
  cases hb.symm.trans hb'
  obtain ⟨hx, hy⟩ := nearestStart_landing hunit t
  have hmoved := (dragMover_of_onSurface hg hb t).1
  refine ⟨hmoved, ?_, ?_, ?_⟩
  · rw [hmoved]
    exact Geometry.bounds?_translate_eq_some hb _
  · rw [min_translate_landing]
    exact hx
  · rw [min_translate_landing]
    exact hy

theorem displaced_dragMover (hg : g.InUnitSquare) (hb : g.bounds? v = some b) (p q : Point α) :
    Displaced v p q .mover g (dragMover g (q + (b.min - p)) v) := by
  cases g with
  | rectangle a c => exact .whole nofun hb (carried_dragMover (hg.onSurface nofun v) hb _)
  | polygon ps => exact .whole nofun hb (carried_dragMover (hg.onSurface nofun v) hb _)
  | circle c r =>
    rw [dragMover_circle hg.radius]
    exact .circle c _ r

/-- **The drag of the mover or of a vertex depends on its last move only.** However the pointer
came there, the geometry is the one that a single move makes of the geometry at the grab. A
rectangle and a polygon are moved as a whole, by the box as far as it can follow the pointer; a
circle of any size keeps its radius, and a polygon keeps all vertices but the one that is dragged. -/
theorem last_move_decides (hg : g.InUnitSquare) {e : Editing α} {p : Point α} {slop : α}
    {part : EditPart} (hgrab : (e.pointerDown g p v slop).1 = .grabbed part)
    (hpart : part = .mover ∨ ∃ i, part = .handle (.vertex i)) (ps : List (Point α))
    (q : Point α) :
    (dragged e g p v slop ((ps ++ [q]).map (·, v))).geometry =
        (dragged e g p v slop [(q, v)]).geometry ∧
      Displaced v p q part g (dragged e g p v slop ((ps ++ [q]).map (·, v))).geometry := by
  obtain ⟨d, hd, -, hfollow⟩ := exists_grabbed hgrab
  rw [(hfollow _).2, (hfollow _).2]
  cases hd with
  | mover g b hb =>
    rw [follow_mover (dragMover_dragMover hg v)]
    exact ⟨rfl, displaced_dragMover hg hb p q⟩
  | vertex vertices i w hw =>
    rw [follow_vertex]
    exact ⟨rfl, .vertex vertices i w hw⟩
  | corner a b c => simp at hpart
  | radius c r => simp at hpart

/-- A triangle. -/
noncomputable def triangle : Geometry ℝ :=
  .polygon [⟨1 / 10, 1 / 10⟩, ⟨3 / 10, 1 / 10⟩, ⟨1 / 5, 3 / 10⟩]

theorem inUnitSquare_triangle : triangle.InUnitSquare := by
  refine ⟨?_, fun a ha => ?_, nofun⟩
  · rintro ps ⟨⟩
    exact le_rfl
  · simp only [Geometry.coordinates, triangle, List.flatMap_cons, List.flatMap_nil,
      List.append_nil, List.cons_append, List.nil_append, List.mem_cons, List.not_mem_nil,
      or_false] at ha
    rcases ha with rfl | rfl | rfl | rfl | rfl | rfl <;> norm_num

/-- The triangle is pressed in the middle, and no vertex is near. -/
theorem mover_of_triangle :
    ((Editing.start .nil).pointerDown triangle ⟨1 / 5, 1 / 5⟩ ⟨100, 100⟩ 8).1 =
      .grabbed .mover := by
  simp [Editing.pointerDown, Geometry.hitPart?, Geometry.handles, triangle, Geometry.isNear,
    Viewport.toPixels, Geometry.contains, Geometry.bounds?, Bounds.ofPoints?, Bounds.stretch,
    lesser_eq_min, greater_eq_max, Bounds.containsPoint, Drag.ofPart?, ExactScalar.abs_eq]
  norm_num

/-- The triangle is dragged far to the right and then downwards. -/
theorem last_move_decides_triangle : triangle.InUnitSquare ∧
    ((Editing.start .nil).pointerDown triangle ⟨1 / 5, 1 / 5⟩ ⟨100, 100⟩ 8).1 =
      .grabbed .mover ∧
    (dragged (.start .nil) triangle ⟨1 / 5, 1 / 5⟩ ⟨100, 100⟩ 8
        [(⟨1, 1 / 5⟩, ⟨100, 100⟩), (⟨1 / 5, 3 / 5⟩, ⟨100, 100⟩)]).geometry =
      (dragged (.start .nil) triangle ⟨1 / 5, 1 / 5⟩ ⟨100, 100⟩ 8
        [(⟨1 / 5, 3 / 5⟩, ⟨100, 100⟩)]).geometry ∧
    Displaced ⟨100, 100⟩ ⟨1 / 5, 1 / 5⟩ ⟨1 / 5, 3 / 5⟩ .mover triangle
      (dragged (.start .nil) triangle ⟨1 / 5, 1 / 5⟩ ⟨100, 100⟩ 8
        [(⟨1, 1 / 5⟩, ⟨100, 100⟩), (⟨1 / 5, 3 / 5⟩, ⟨100, 100⟩)]).geometry :=
  ⟨inUnitSquare_triangle, mover_of_triangle,
    last_move_decides inUnitSquare_triangle mover_of_triangle (Or.inl rfl) [⟨1, 1 / 5⟩]
      ⟨1 / 5, 3 / 5⟩⟩

end Reshaping

end ShapeOverlay
