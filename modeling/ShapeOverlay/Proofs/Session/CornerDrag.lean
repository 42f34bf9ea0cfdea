import ShapeOverlay.Proofs.Scalar.Binary64
import ShapeOverlay.Proofs.Session.Reshaping

/-! # Dragging a corner

A rectangle is stored as two points that may lie either way, and the two coordinates of a corner of
its box may belong to different points. The press chooses a point for each axis, and from then on
the axes do not take notice of each other.

* `Drag.Leads`: along one axis, the point that is dragged is on the side of the dragged corner. This
  holds of the point that the press chooses (`leads_slot`), and as long as it holds the box ends at
  the two coordinates (`Leads.extreme`, `Leads.extreme_not`).
* `Drag.AxisDragged`: what one axis has become after a number of targets. One more target keeps it
  so (`AxisDragged.concat`), and hence so does a whole drag (`axisDragged`).

No arithmetic is exact here: the coordinates only have to be comparable with themselves, and the
points to which the pointer moves need not even be that. -/

namespace ShapeOverlay

open Scalar OrderedScalar

variable {α : Type} [Scalar α]

/-- The coordinate of two at which the box around them begins or ends. -/
def extreme (isMin : Bool) (pair : α × α) : α :=
  if isMin then lesser pair.1 pair.2 else greater pair.1 pair.2

theorem corner_ofCorners (a b : Point α) (c : Corner) : (Bounds.ofCorners a b).corner c =
    ⟨extreme c.isMinX (a.x, b.x), extreme c.isMinY (a.y, b.y)⟩ := rfl

namespace Drag

/-! ### One axis -/

/-- The target lies on the side of the other point's coordinate where the dragged corner is, and
does not reach it. -/
def StaysClear (isMin : Bool) (opposite target : α) : Prop :=
  if isMin then target < opposite else opposite < target

instance (isMin : Bool) (opposite target : α) : Decidable (StaysClear isMin opposite target) :=
  inferInstanceAs (Decidable (if isMin then target < opposite else opposite < target))

/-- The coordinate of one point is on the side where the dragged corner is. -/
def Leads (isMin : Bool) (s : Slot) (pair : α × α) : Prop :=
  if isMin then s.pick pair ≤ s.other.pick pair else s.other.pick pair ≤ s.pick pair

/-- **What one coordinate of both points has become** after that of one point was dragged to a
number of targets. It is still the coordinate of the dragged corner, and the other point keeps its
own. The last target that did not reach the other point decides (`last`): the coordinate is where it
was grabbed, or in the unit range and short of the other point (`legal`). -/
structure AxisDragged (isMin : Bool) (s : Slot) (targets : List α) (old new : α × α) : Prop where
  leads : Leads isMin s new
  kept : s.other.pick new = s.other.pick old
  last : s.pick new =
    (targets.filter fun t => StaysClear isMin (s.other.pick old) t).getLast?.getD (s.pick old)
  legal : s.pick new = s.pick old ∨
    (0 ≤ s.pick new ∧ s.pick new ≤ 1) ∧ StaysClear isMin (s.other.pick old) (s.pick new)

/-- One coordinate of both points after that of one point was dragged to a number of targets. -/
def dragAxes (isMin : Bool) (s : Slot) (targets : List α) (pair : α × α) : α × α :=
  targets.foldl (fun pair t => dragAxis isMin s t pair) pair

theorem dragAxis_eq (isMin : Bool) (s : Slot) (t : α) (pair : α × α) : dragAxis isMin s t pair =
    if StaysClear isMin (s.other.pick pair) t then s.put t pair else pair := rfl

section Order
variable [OrderedScalar α] {isMin : Bool} {s : Slot} {old new pair : α × α} {targets : List α}
variable {a b t : α}

theorem StaysClear.leads (h : StaysClear isMin (s.other.pick pair) t) :
    Leads isMin s (s.put t pair) := by
  unfold StaysClear at h
  unfold Leads
  rw [Slot.pick_put, Slot.pick_other_put]
  split_ifs at h ⊢
  · exact le_of_lt h
  · exact le_of_lt h

theorem StaysClear.le_self {opposite : α} (h : StaysClear isMin opposite t) : t ≤ t := by
  unfold StaysClear at h
  split_ifs at h
  · exact le_self_left (le_of_lt h)
  · exact le_self_right (le_of_lt h)

/-- The point that a press chooses for an axis. -/
theorem leads_slot (ha : a ≤ a) (hb : b ≤ b) (isMin : Bool) :
    Leads isMin (slot isMin a b) (a, b) := by
  unfold Leads slot
  by_cases hba : b < a
  · simp only [if_pos hba]
    cases isMin <;> exact le_of_lt hba
  · simp only [if_neg hba]
    cases isMin <;> exact le_of_not_lt hb ha hba

theorem Leads.extreme (h : Leads isMin s pair) : (extreme isMin pair == s.pick pair) = true := by
  cases isMin with
  | true =>
    cases s with
    | first => exact lesser_beq_left h
    | second => exact lesser_beq_right h
  | false =>
    cases s with
    | first => exact greater_beq_left h
    | second => exact greater_beq_right h

theorem Leads.extreme_not (h : Leads isMin s pair) :
    (ShapeOverlay.extreme (!isMin) pair == s.other.pick pair) = true := by
  refine Leads.extreme ?_
  unfold Leads at h ⊢
  rw [Slot.other_other]
  cases isMin <;> exact h

omit [OrderedScalar α] in
theorem AxisDragged.refl (h : Leads isMin s old) : AxisDragged isMin s [] old old :=
  ⟨h, rfl, rfl, Or.inl rfl⟩

/-- **One more target.** -/
theorem AxisDragged.concat (h : AxisDragged isMin s targets old new)
    (ht : t ≤ t → 0 ≤ t ∧ t ≤ 1) :
    AxisDragged isMin s (targets ++ [t]) old (dragAxis isMin s t new) := by
  rw [dragAxis_eq, h.kept]
  by_cases hclear : StaysClear isMin (s.other.pick old) t
  · rw [if_pos hclear]
    refine ⟨?_, ?_, ?_, Or.inr ⟨?_, ?_⟩⟩
    · exact StaysClear.leads (h.kept ▸ hclear)
    · rw [Slot.pick_other_put, h.kept]
    · simp [hclear]
    · rw [Slot.pick_put]
      exact ht hclear.le_self
    · rw [Slot.pick_put]
      exact hclear
  · rw [if_neg hclear]
    refine ⟨h.leads, h.kept, ?_, h.legal⟩
    rw [h.last]
    simp [hclear]

/-- **A whole drag of one axis**, to targets that lie in the unit range if they can be compared. -/
theorem axisDragged (h : Leads isMin s old) (ht : ∀ t ∈ targets, t ≤ t → 0 ≤ t ∧ t ≤ 1) :
    AxisDragged isMin s targets old (dragAxes isMin s targets old) := by
  induction targets using List.reverseRecOn with
  | nil => exact .refl h
  | append_singleton targets t ih =>
    unfold dragAxes
    rw [List.foldl_append]
    exact (ih fun u hu => ht u (by simp [hu])).concat (ht t (by simp))

/-- The box keeps its other end. -/
theorem AxisDragged.extreme_not (h : AxisDragged isMin s targets old new)
    (hold : Leads isMin s old) :
    (ShapeOverlay.extreme (!isMin) new == ShapeOverlay.extreme (!isMin) old) = true := by
  have hnew := h.leads.extreme_not
  rw [h.kept] at hnew
  exact beq_trans hnew (beq_symm hold.extreme_not)

end Order

/-! ### Both axes -/

/-- Where the moves of a drag put the grabbed part. -/
def targets (offset : Point α) (moves : List (Point α × Viewport α)) : List (Point α) :=
  moves.map fun m => (m.1 + offset).clamped

/-- The coordinates of a target lie in the unit range, if they can be compared. -/
theorem legal_of_mem_targets [OrderedScalar α] {offset t : Point α}
    {moves : List (Point α × Viewport α)} (ht : t ∈ targets offset moves) :
    (t.x ≤ t.x → 0 ≤ t.x ∧ t.x ≤ 1) ∧ (t.y ≤ t.y → 0 ≤ t.y ∧ t.y ≤ 1) := by
  obtain ⟨m, -, rfl⟩ := List.mem_map.mp ht
  exact ⟨clampUnit_mem, clampUnit_mem⟩

/-- A drag of a corner drags each axis on its own. -/
theorem follow_corner (c : Corner) (xSlot ySlot : Slot) (offset : Point α)
    (moves : List (Point α × Viewport α)) (a b : Point α) :
    let xs := dragAxes c.isMinX xSlot ((targets offset moves).map (·.x)) (a.x, b.x)
    let ys := dragAxes c.isMinY ySlot ((targets offset moves).map (·.y)) (a.y, b.y)
    (Drag.corner c xSlot ySlot offset).follow (.rectangle a b) moves =
      .rectangle ⟨xs.1, ys.1⟩ ⟨xs.2, ys.2⟩ := by
  induction moves generalizing a b with
  | nil => rfl
  | cons m moves ih => exact ih _ _

/-- **What a rectangle has become** after a corner was dragged to a number of targets: along each
axis one of its points was dragged, the dragged coordinates are those of the corner, and the corner
across the box has not moved. -/
structure CornerDragged (c : Corner) (xSlot ySlot : Slot) (targets : List (Point α))
    (a b a' b' : Point α) : Prop where
  x : AxisDragged c.isMinX xSlot (targets.map (·.x)) (a.x, b.x) (a'.x, b'.x)
  y : AxisDragged c.isMinY ySlot (targets.map (·.y)) (a.y, b.y) (a'.y, b'.y)
  corner : ((Bounds.ofCorners a' b').corner c ==
    ⟨xSlot.pick (a'.x, b'.x), ySlot.pick (a'.y, b'.y)⟩) = true
  opposite : ((Bounds.ofCorners a' b').corner c.opposite ==
    (Bounds.ofCorners a b).corner c.opposite) = true

section
variable [OrderedScalar α] {c : Corner} {xSlot ySlot : Slot} {ts : List (Point α)}
variable {a b a' b' : Point α}

theorem cornerDragged (hx : Leads c.isMinX xSlot (a.x, b.x)) (hy : Leads c.isMinY ySlot (a.y, b.y))
    (hxs : AxisDragged c.isMinX xSlot (ts.map (·.x)) (a.x, b.x) (a'.x, b'.x))
    (hys : AxisDragged c.isMinY ySlot (ts.map (·.y)) (a.y, b.y) (a'.y, b'.y)) :
    CornerDragged c xSlot ySlot ts a b a' b' where
  x := hxs
  y := hys
  corner := Bool.and_eq_true_iff.mpr ⟨hxs.leads.extreme, hys.leads.extreme⟩
  opposite := by
    rw [corner_ofCorners, corner_ofCorners, Corner.isMinX_opposite, Corner.isMinY_opposite]
    exact Bool.and_eq_true_iff.mpr ⟨hxs.extreme_not hx, hys.extreme_not hy⟩

end

end Drag

/-! ### A press and moves -/

namespace Reshaping

open Drag

/-- **A drag of a corner moves this corner and nothing else.** However the two points of the
rectangle lie, and wherever the pointer moves, the corner across the box stays where it is. Along
each axis one of the points is dragged: its coordinate is that of the last target which did not
reach the other point, or where it was grabbed, and so the corner never crosses over. The axes do
not take notice of each other. -/
theorem corner_drag_keeps_opposite [OrderedScalar α] {a b : Point α} (ha : a.Has fun x => x ≤ x)
    (hb : b.Has fun x => x ≤ x) {e : Editing α} {p : Point α} {v : Viewport α} {slop : α}
    {c : Corner}
    (hgrab : (e.pointerDown (.rectangle a b) p v slop).1 = .grabbed (.handle (.corner c)))
    (moves : List (Point α × Viewport α)) :
    ∃ a' b' xSlot ySlot,
      (dragged e (.rectangle a b) p v slop moves).geometry = .rectangle a' b' ∧
      CornerDragged c xSlot ySlot (targets ((Bounds.ofCorners a b).corner c - p) moves)
        a b a' b' := by
  obtain ⟨d, hd, -, hfollow⟩ := exists_grabbed hgrab
  cases hd
  have hx := leads_slot ha.1 hb.1 c.isMinX
  have hy := leads_slot ha.2 hb.2 c.isMinY
  refine ⟨_, _, _, _, (hfollow moves).2.trans (follow_corner c _ _ _ moves a b),
    cornerDragged hx hy (axisDragged hx ?_) (axisDragged hy ?_)⟩
  · exact List.forall_mem_map.mpr fun t ht => (legal_of_mem_targets ht).1
  · exact List.forall_mem_map.mpr fun t ht => (legal_of_mem_targets ht).2

/-- A rectangle stored with its bottom right corner first. -/
def unordered : Geometry Float := .rectangle ⟨0.75, 0.75⟩ ⟨0.25, 0.25⟩

/-- The top right corner is dragged outwards, then too far to the left, then nowhere. -/
def draggedOver : List (Point Float × Viewport Float) :=
  [(⟨0.875, 0.125⟩, ⟨100, 100⟩), (⟨0.125, 0.5⟩, ⟨100, 100⟩), (⟨0 / 0, 0 / 0⟩, ⟨100, 100⟩)]

/-- Its coordinates belong to different points, and only the one that may follow does. -/
theorem corner_drag_keeps_opposite_draggedOver :
    ((Editing.start .nil).pointerDown unordered ⟨0.75, 0.25⟩ ⟨100, 100⟩ 8).1 =
      .grabbed (.handle (.corner .ne)) ∧
    ∃ a' b' xSlot ySlot,
      (dragged (.start .nil) unordered ⟨0.75, 0.25⟩ ⟨100, 100⟩ 8 draggedOver).geometry =
        .rectangle a' b' ∧
      CornerDragged .ne xSlot ySlot
        (targets ((Bounds.ofCorners ⟨0.75, 0.75⟩ ⟨0.25, 0.25⟩).corner .ne - ⟨0.75, 0.25⟩)
          draggedOver) ⟨0.75, 0.75⟩ ⟨0.25, 0.25⟩ a' b' := by
  have hgrab : ((Editing.start .nil).pointerDown unordered ⟨0.75, 0.25⟩ ⟨100, 100⟩ 8).1 =
      .grabbed (.handle (.corner .ne)) := by decide +kernel
  have ha : (⟨0.75, 0.75⟩ : Point Float).Has fun x => x ≤ x := by
    constructor <;> decide +kernel
  have hb : (⟨0.25, 0.25⟩ : Point Float).Has fun x => x ≤ x := by
    constructor <;> decide +kernel
  exact ⟨hgrab, corner_drag_keeps_opposite ha hb hgrab draggedOver⟩

example : (dragged (.start .nil) unordered ⟨0.75, 0.25⟩ ⟨100, 100⟩ 8 draggedOver).geometry =
    .rectangle ⟨0.875, 0.75⟩ ⟨0.25, 0.5⟩ := by decide +kernel

end Reshaping

end ShapeOverlay
