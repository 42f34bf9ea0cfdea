import ShapeOverlay.Proofs.Session.CornerDrag
import ShapeOverlay.Proofs.Session.OnSurface

/-! # Dragging back

A drag that ends where the pointer was pressed leaves no trace, if numbers are exact and the
geometry lies on the surface. What a drag remembers of the grab is enough for this, whatever the
moves in between have done:

* the mover and a vertex forget all moves but the last, and their offset leads back to where they
  were (`dragMover_min`, `set_clamped_self`);
* a corner is led back along each axis to a coordinate that does not reach the other point, and the
  other point has not moved (`dragAxes_back`);
* the radius of a circle is taken over from the grab, since a handle that is led back to its place
  would only restore the length (`exists_follow_radius`).

The pointer has then not run ahead of the part that it holds (`blind_dragged`). -/

namespace ShapeOverlay

open Scalar

variable {α : Type} [ExactScalar α] {v : Viewport α} {g : Geometry α} {b : Bounds α} {p : Point α}

theorem Point.beq_self (p : Point α) : (p == p) = true :=
  Bool.and_eq_true_iff.mpr ⟨ExactScalar.beq_iff_eq.mpr rfl, ExactScalar.beq_iff_eq.mpr rfl⟩

theorem Geometry.translate_sub_self (g : Geometry α) (q : Point α) : g.translate (q - q) = g := by
  have hstay : ∀ p : Point α, p + (q - q) = p := fun p => by
    show (⟨p.x + (q.x - q.x), p.y + (q.y - q.y)⟩ : Point α) = p
    rw [sub_self, sub_self, add_zero, add_zero]
  cases g with
  | rectangle a b => rw [translate, hstay, hstay]
  | polygon ps => rw [translate, List.map_congr_left fun p _ => hstay p, List.map_id']
  | circle c r => rw [translate, hstay]

/-- The two points of a rectangle have no coordinate in common. -/
def Geometry.IsSpread : Geometry α → Prop
  | rectangle a b => a.x ≠ b.x ∧ a.y ≠ b.y
  | polygon _ | circle _ _ => True

namespace Drag

/-! ### The mover and vertices -/

/-- A box on the surface can start where it starts. -/
theorem landing_min (hb : Bounds.unit.contains b = true) : landing b.min b = b.min := by
  obtain ⟨hx, hy⟩ := nearestStart_landing hb b.min
  obtain ⟨hminx, hminy, hmaxx, hmaxy⟩ := Bounds.contains_iff.mp hb
  have hwidth : b.min.x + b.width ≤ 1 := (add_sub_cancel b.min.x b.max.x).trans_le hmaxx
  have hheight : b.min.y + b.height ≤ 1 := (add_sub_cancel b.min.y b.max.y).trans_le hmaxy
  exact congrArg₂ Point.mk (hx.fits hminx hwidth) (hy.fits hminy hheight)

theorem dragMover_min (hg : g.OnSurface v) (hb : g.bounds? v = some b) :
    dragMover g b.min v = g := by
  obtain ⟨b', hb', hunit⟩ := hg.box
  cases hb.symm.trans hb'
  rw [(dragMover_of_onSurface hg hb b.min).1, landing_min hunit, Geometry.translate_sub_self]

/-- A vertex on the surface is not moved by being put where it is. -/
theorem set_clamped_self {vertices : List (Point α)}
    (hg : (Geometry.polygon vertices).OnSurface v) {i : Nat} {q : Point α}
    (hq : vertices[i]? = some q) : vertices.set i q.clamped = vertices := by
  obtain ⟨hi, rfl⟩ := List.getElem?_eq_some_iff.mp hq
  have hunit : vertices[i].InUnit :=
    (Geometry.onSurface_polygon.mp hg).2 _ (List.getElem_mem hi)
  rw [Point.clamped_of_inUnit hunit, List.set_getElem_self]

/-! ### Corners -/

omit [ExactScalar α] in
theorem ext_of_pick {s : Slot} {old new : α × α} (h : s.pick new = s.pick old)
    (hother : s.other.pick new = s.other.pick old) : new = old := by
  cases s with
  | first => exact Prod.ext h hother
  | second => exact Prod.ext hother h

/-- A coordinate on the side of the dragged corner does not reach the other point, unless they are
equal. -/
theorem Leads.staysClear {isMin : Bool} {s : Slot} {pair : α × α} (h : Leads isMin s pair)
    (hne : pair.1 ≠ pair.2) : StaysClear isMin (s.other.pick pair) (s.pick pair) := by
  have hpick : s.pick pair ≠ s.other.pick pair := by
    cases s with
    | first => exact hne
    | second => exact hne.symm
  cases isMin with
  | true => exact lt_of_le_of_ne h hpick
  | false => exact lt_of_le_of_ne h hpick.symm

/-- **The last target brings the coordinate back.** -/
theorem dragAxes_back {isMin : Bool} {s : Slot} {old : α × α} (h : Leads isMin s old)
    (hne : old.1 ≠ old.2) {targets : List α} (ht : ∀ t ∈ targets, 0 ≤ t ∧ t ≤ 1)
    (hback : targets.getLast? = some (s.pick old)) : dragAxes isMin s targets old = old := by
  have hdragged := axisDragged h fun t htarget _ => ht t htarget
  refine ext_of_pick ?_ hdragged.kept
  obtain ⟨before, rfl⟩ := List.getLast?_eq_some_iff.mp hback
  rw [hdragged.last]
  simp [h.staysClear hne]

omit [ExactScalar α] in
theorem pick_of {P : α → Prop} {x y : α} (hx : P x) (hy : P y) (s : Slot) : P (s.pick (x, y)) := by
  cases s with
  | first => exact hx
  | second => exact hy

/-- The coordinates of a corner are those of the points that a press chooses. -/
theorem corner_eq_pick (a b : Point α) (c : Corner) :
    (Bounds.ofCorners a b).corner c = ⟨(slot c.isMinX a.x b.x).pick (a.x, b.x),
      (slot c.isMinY a.y b.y).pick (a.y, b.y)⟩ :=
  congrArg₂ Point.mk (ExactScalar.beq_iff_eq.mp (leads_slot le_rfl le_rfl c.isMinX).extreme)
    (ExactScalar.beq_iff_eq.mp (leads_slot le_rfl le_rfl c.isMinY).extreme)

theorem inUnit_corner {a b : Point α} (ha : a.InUnit) (hb : b.InUnit) (c : Corner) :
    ((Bounds.ofCorners a b).corner c).InUnit := by
  rw [corner_eq_pick]
  exact ⟨pick_of (P := fun x => 0 ≤ x ∧ x ≤ 1) ha.1 hb.1 _,
    pick_of (P := fun y => 0 ≤ y ∧ y ≤ 1) ha.2 hb.2 _⟩

theorem inUnit_targets {offset t : Point α} {moves : List (Point α × Viewport α)}
    (ht : t ∈ targets offset moves) : t.InUnit := by
  obtain ⟨hx, hy⟩ := legal_of_mem_targets ht
  exact ⟨hx le_rfl, hy le_rfl⟩

theorem follow_corner_back {a b : Point α} (hg : (Geometry.rectangle a b).OnSurface v)
    (hspread : (Geometry.rectangle a b).IsSpread) (c : Corner) (ps : List (Point α)) :
    (Drag.corner c (slot c.isMinX a.x b.x) (slot c.isMinY a.y b.y)
      ((Bounds.ofCorners a b).corner c - p)).follow (.rectangle a b) ((ps ++ [p]).map (·, v)) =
        .rectangle a b := by
  obtain ⟨ha, hb⟩ := Geometry.onSurface_rectangle.mp hg
  rw [follow_corner]
  generalize hts : targets ((Bounds.ofCorners a b).corner c - p) ((ps ++ [p]).map (·, v)) = ts
  have hunit : ∀ t ∈ ts, t.InUnit := fun t ht => inUnit_targets (hts ▸ ht)
  have hback : ts.getLast? = some ((Bounds.ofCorners a b).corner c) := by
    simp only [← hts, targets, List.map_append, List.map_cons, List.map_nil,
      List.getLast?_concat, Point.add_sub_self, Point.clamped_of_inUnit (inUnit_corner ha hb c)]
  rw [corner_eq_pick] at hback
  have hx : dragAxes c.isMinX (slot c.isMinX a.x b.x) (ts.map (·.x)) (a.x, b.x) = (a.x, b.x) := by
    refine dragAxes_back (leads_slot le_rfl le_rfl _) hspread.1
      (List.forall_mem_map.mpr fun t ht => (hunit t ht).1) ?_
    rw [List.getLast?_map, hback]
    rfl
  have hy : dragAxes c.isMinY (slot c.isMinY a.y b.y) (ts.map (·.y)) (a.y, b.y) = (a.y, b.y) := by
    refine dragAxes_back (leads_slot le_rfl le_rfl _) hspread.2
      (List.forall_mem_map.mpr fun t ht => (hunit t ht).2) ?_
    rw [List.getLast?_map, hback]
    rfl
  rw [hx, hy]

/-! ### The radius of a circle -/

/-- A drag of the radius leaves a circle with its centre, whatever has become of the radius. -/
theorem exists_follow_radius (offset origin c : Point α) (grabbed r : Radius α)
    (moves : List (Point α × Viewport α)) :
    ∃ r', (Drag.radius offset origin grabbed).follow (.circle c r) moves = .circle c r' := by
  induction moves generalizing r with
  | nil => exact ⟨r, rfl⟩
  | cons m moves ih => exact ih _

end Drag

/-! ### A press and moves -/

namespace Reshaping

open Drag

variable {e : Editing α} {slop : α} {part : EditPart} {d : Drag α}
variable {moves : List (Point α × Viewport α)}

/-- How far the pointer has run ahead after one more move. -/
theorem blind_dragged_concat (h : (dragged e g p v slop moves).session.drag = some d)
    (m : Point α × Viewport α) : (dragged e g p v slop (moves ++ [m])).session.blind =
      d.blind (dragged e g p v slop moves).geometry m.1 m.2
        (dragged e g p v slop moves).session.blind := by
  rw [dragged_concat]
  exact (feed_move_of_drag h m).2.2

/-- It does not run ahead of a part whose drag keeps no record of that. -/
theorem blind_dragged (hstart : (dragged e g p v slop []).session.blind = .origin)
    (hdrag : ∀ moves, (dragged e g p v slop moves).session.drag = some d)
    (hd : ∀ g p v before, d.blind g p v before = before)
    (moves : List (Point α × Viewport α)) :
    (dragged e g p v slop moves).session.blind = .origin := by
  induction moves using List.reverseRecOn with
  | nil => exact hstart
  | append_singleton moves m ih => rw [blind_dragged_concat (hdrag moves), hd, ih]

/-- **A drag that ends where it began leaves no trace.** Whichever part of a geometry on the surface
is pressed, and wherever the pointer goes, once it is back at the point where it was pressed the
geometry is what it was, and the pointer is not ahead of the part. A rectangle must not have lost
its area, since no corner can be led back to a coordinate of the one across. -/
theorem drag_back_restores (hg : g.OnSurface v) (hspread : g.IsSpread)
    (hgrab : (e.pointerDown g p v slop).1 = .grabbed part) (ps : List (Point α)) :
    (dragged e g p v slop ((ps ++ [p]).map (·, v))).geometry = g ∧
      (dragged e g p v slop ((ps ++ [p]).map (·, v))).session.blind = .origin := by
  obtain ⟨d, hd, hstart, hfollow⟩ := exists_grabbed hgrab
  have hdrag := fun moves => (hfollow moves).1
  rw [(hfollow _).2]
  cases hd with
  | corner a b c =>
    exact ⟨follow_corner_back hg hspread c ps,
      blind_dragged hstart hdrag (fun _ _ _ _ => rfl) _⟩
  | vertex vertices i q hq =>
    rw [follow_vertex, Point.add_sub_self, set_clamped_self hg hq]
    exact ⟨rfl, blind_dragged hstart hdrag (fun _ _ _ _ => rfl) _⟩
  | mover g b hb =>
    rw [follow_mover (dragMover_dragMover_of_onSurface hg), Point.add_sub_self,
      dragMover_min hg hb]
    exact ⟨rfl, blind_dragged hstart hdrag (fun _ _ _ _ => rfl) _⟩
  | radius c r =>
    obtain ⟨r', hr'⟩ := exists_follow_radius _ p c r r (ps.map (·, v))
    rw [List.map_append, List.map_singleton, follow_concat, blind_dragged_concat (hdrag _),
      (hfollow _).2, hr']
    simp only [apply, Drag.blind, Point.beq_self, if_true, Bool.true_or, and_self]

theorem handles_disc : disc.handles wide = [(.radius, ⟨1 / 2, 1 / 4⟩)] := by
  simp only [Geometry.handles, disc, effective_disc, radiusHandle, isEmpty_wide]
  norm_num [wide]

theorem grabbed_disc : ((Editing.start .nil).pointerDown disc ⟨1 / 2, 1 / 4⟩ wide 8).1 =
    .grabbed (.handle .radius) := by
  have hnear : Geometry.isNear wide 8 ⟨1 / 2, 1 / 4⟩ ⟨1 / 2, 1 / 4⟩ = true := by
    norm_num [Geometry.isNear, ExactScalar.abs_eq]
  have hpart : disc.hitPart? ⟨1 / 2, 1 / 4⟩ wide 8 = some (.handle .radius) := by
    simp only [Geometry.hitPart?, handles_disc, List.reverse_singleton, List.find?_cons, hnear]
  simp only [Editing.pointerDown, hpart, Drag.ofPart?, handles_disc]
  rfl

/-- The circle is drawn out, which gives it a radius along the other axis, and back. -/
theorem drag_back_restores_disc : disc.OnSurface wide ∧ disc.IsSpread ∧
    ((Editing.start .nil).pointerDown disc ⟨1 / 2, 1 / 4⟩ wide 8).1 =
      .grabbed (.handle .radius) ∧
    (dragged (.start .nil) disc ⟨1 / 2, 1 / 4⟩ wide 8
      [(⟨1 / 2, 1 / 8⟩, wide), (⟨1 / 2, 1 / 4⟩, wide)]).geometry = disc ∧
    (dragged (.start .nil) disc ⟨1 / 2, 1 / 4⟩ wide 8
      [(⟨1 / 2, 1 / 8⟩, wide), (⟨1 / 2, 1 / 4⟩, wide)]).session.blind = .origin :=
  ⟨onSurface_disc, trivial, grabbed_disc,
    drag_back_restores onSurface_disc trivial grabbed_disc [⟨1 / 2, 1 / 8⟩]⟩

end Reshaping

end ShapeOverlay
