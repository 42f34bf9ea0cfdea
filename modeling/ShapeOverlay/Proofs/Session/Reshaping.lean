import Mathlib.Data.List.Induction
import ShapeOverlay.Proofs.Session.UnitSquare

/-! # Reshaping a geometry

An editing session leaves the geometry to its caller and is handed it with every event. A
`Reshaping` is a session together with the geometry that its events reshape (`Reshaping.run`).

A press that grabs a part begins the drag of that part (`Drag.Grabbed`), and the moves that follow
apply this drag to the geometry one after the other (`Drag.follow`, `exists_grabbed`). What is known
of a drag after any number of moves is shown from its end, move by move (`dragged_concat`,
`feed_move_of_drag`). -/

namespace ShapeOverlay

variable {α : Type}

/-! ### Corners of a box -/

/-- The corner across the box. -/
def Corner.opposite : Corner → Corner
  | nw => se
  | ne => sw
  | se => nw
  | sw => ne

@[simp] theorem Corner.isMinX_opposite (c : Corner) : c.opposite.isMinX = !c.isMinX := by
  cases c <;> rfl

@[simp] theorem Corner.isMinY_opposite (c : Corner) : c.opposite.isMinY = !c.isMinY := by
  cases c <;> rfl

/-- The place of a corner of a box. -/
def Bounds.corner (b : Bounds α) (c : Corner) : Point α where
  x := if c.isMinX then b.min.x else b.max.x
  y := if c.isMinY then b.min.y else b.max.y

section
variable [Scalar α]

theorem handles_rectangle (a b : Point α) (v : Viewport α) :
    (Geometry.rectangle a b).handles v =
      Corner.all.map fun c => (.corner c, (Bounds.ofCorners a b).corner c) := rfl

/-! ### Drags that a press begins -/

namespace Drag

/-- **The drag that begins when the pointer takes hold of a part of a geometry.** -/
inductive Grabbed (p : Point α) (v : Viewport α) : Geometry α → EditPart → Drag α → Prop
  | corner (a b : Point α) (c : Corner) :
    Grabbed p v (.rectangle a b) (.handle (.corner c))
      (.corner c (slot c.isMinX a.x b.x) (slot c.isMinY a.y b.y)
        ((Bounds.ofCorners a b).corner c - p))
  | vertex (vertices : List (Point α)) (i : Nat) (q : Point α) (vertex : vertices[i]? = some q) :
    Grabbed p v (.polygon vertices) (.handle (.vertex i)) (.vertex i (q - p))
  | radius (center : Point α) (r : Radius α) :
    Grabbed p v (.circle center r) (.handle .radius)
      (.radius (radiusHandle center (r.effective v) v - p) p r)
  | mover (g : Geometry α) (b : Bounds α) (box : g.bounds? v = some b) :
    Grabbed p v g .mover (.mover (b.min - p))

theorem grabbed_of_ofPart? {g : Geometry α} {part : EditPart} {p : Point α} {v : Viewport α}
    {d : Drag α} (h : ofPart? g part p v = some d) : Grabbed p v g part d := by
  cases part with
  | mover =>
    obtain ⟨b, hb, rfl⟩ := Option.map_eq_some_iff.mp h
    exact .mover g b hb
  | handle k =>
    obtain ⟨⟨k', place⟩, hfind, hd⟩ := Option.bind_eq_some_iff.mp h
    have hk : k' = k := by simpa using List.find?_some hfind
    have hmem : (k', place) ∈ g.handles v := List.mem_of_find?_eq_some hfind
    subst hk
    cases g with
    | rectangle a b =>
      rw [handles_rectangle] at hmem
      obtain ⟨c, -, hc⟩ := List.mem_map.mp hmem
      cases hc
      cases hd
      exact .corner a b c
    | polygon vertices =>
      obtain ⟨i, hi, hplace⟩ := List.mem_mapIdx.mp hmem
      cases hplace
      simp only [ofHandle?, if_pos hi] at hd
      cases hd
      exact .vertex vertices i _ (List.getElem?_eq_getElem hi)
    | circle center r =>
      cases List.mem_singleton.mp hmem
      cases hd
      exact .radius center r

/-- The geometry after a drag has followed the pointer to one point after the other. -/
def follow (d : Drag α) (g : Geometry α) (moves : List (Point α × Viewport α)) : Geometry α :=
  moves.foldl (fun g m => d.apply g m.1 m.2) g

variable {d : Drag α} {g : Geometry α} {moves : List (Point α × Viewport α)}

theorem follow_concat (m : Point α × Viewport α) :
    d.follow g (moves ++ [m]) = d.apply (d.follow g moves) m.1 m.2 := List.foldl_append

end Drag

/-! ### One event -/

namespace Editing

variable {e : Editing α} {g : Geometry α} {p : Point α} {v : Viewport α} {slop : α}
variable {d : Drag α} {part : EditPart}

/-- **What a press does**: it hits nothing, or it begins the drag of a part with a clean record. -/
theorem pointerDown_cases (e : Editing α) (g : Geometry α) (p : Point α) (v : Viewport α)
    (slop : α) : e.pointerDown g p v slop = (.ignored, e) ∨
      ∃ part d, Drag.Grabbed p v g part d ∧ e.pointerDown g p v slop =
        (.grabbed part, { e with drag := some d, moved := false, blind := .origin }) := by
  unfold pointerDown
  split
  · exact Or.inl rfl
  · next part hpart =>
    split
    · exact Or.inl rfl
    · next d hd => exact Or.inr ⟨part, d, Drag.grabbed_of_ofPart? hd, rfl⟩

theorem grabbed_of_pointerDown (h : (e.pointerDown g p v slop).1 = .grabbed part) :
    ∃ d, Drag.Grabbed p v g part d ∧ (e.pointerDown g p v slop).2 =
      { e with drag := some d, moved := false, blind := .origin } := by
  rcases e.pointerDown_cases g p v slop with hignored | ⟨part', d, hd, hgrabbed⟩
  · rw [hignored] at h
    cases h
  · rw [hgrabbed] at h ⊢
    cases h
    exact ⟨d, hd, rfl⟩

theorem pointerMove_of_drag (h : e.drag = some d) : (e.pointerMove g p v).2.1 = d.apply g p v ∧
    (e.pointerMove g p v).2.2.blind = d.blind g p v e.blind := by
  unfold pointerMove
  simp only [h]
  split_ifs <;> exact ⟨rfl, rfl⟩

/-- What the pointer does on a surface of some size, at a relative point, where the handles can be
hit from as far off as the slop says. -/
inductive Touch (α : Type) where
  | down (p : Point α) (v : Viewport α) (slop : α)
  | move (p : Point α) (v : Viewport α)
  | up
  | click (p : Point α) (v : Viewport α) (slop : α)

/-- The touch is one of a surface of this size, as far as it tells. -/
def Touch.IsOn (v : Viewport α) : Touch α → Prop
  | down _ w _ | move _ w | click _ w _ => w = v
  | up => True

end Editing

/-! ### Runs -/

/-- An editing session and the geometry that it reshapes. -/
structure Reshaping (α : Type) where
  session : Editing α
  geometry : Geometry α

namespace Reshaping

open Editing

/-- The session and the geometry after a touch. -/
def feed (r : Reshaping α) : Touch α → Reshaping α
  | .down p v slop => { r with session := (r.session.pointerDown r.geometry p v slop).2 }
  | .move p v =>
    { session := (r.session.pointerMove r.geometry p v).2.2
      geometry := (r.session.pointerMove r.geometry p v).2.1 }
  | .up => { r with session := r.session.pointerUp.2 }
  | .click p v slop => { r with session := (r.session.click r.geometry p v slop).2 }

/-- The session and the geometry after a number of touches. -/
def run (r : Reshaping α) (touches : List (Touch α)) : Reshaping α := touches.foldl feed r

/-- A geometry that is pressed at a point and then dragged along. -/
def dragged (e : Editing α) (g : Geometry α) (p : Point α) (v : Viewport α) (slop : α)
    (moves : List (Point α × Viewport α)) : Reshaping α :=
  run ⟨e, g⟩ (.down p v slop :: moves.map fun m => .move m.1 m.2)

variable {r : Reshaping α} {d : Drag α} {moves : List (Point α × Viewport α)}

theorem run_concat (touches : List (Touch α)) (t : Touch α) :
    r.run (touches ++ [t]) = (r.run touches).feed t := List.foldl_append

variable {e : Editing α} {g : Geometry α} {p : Point α} {v : Viewport α} {slop : α}
variable {part : EditPart}

theorem dragged_concat (m : Point α × Viewport α) : dragged e g p v slop (moves ++ [m]) =
    (dragged e g p v slop moves).feed (.move m.1 m.2) := by
  simp only [dragged, List.map_append, List.map_cons, List.map_nil, ← List.cons_append, run_concat]

theorem feed_move_of_drag (h : r.session.drag = some d) (m : Point α × Viewport α) :
    (r.feed (.move m.1 m.2)).session.drag = some d ∧
      (r.feed (.move m.1 m.2)).geometry = d.apply r.geometry m.1 m.2 ∧
      (r.feed (.move m.1 m.2)).session.blind =
        d.blind r.geometry m.1 m.2 r.session.blind := by
  refine ⟨?_, pointerMove_of_drag h⟩
  simp only [feed, drag_pointerMove, h]

/-- **A press that grabs a part and the moves after it apply the drag of that part**, move by move.
-/
theorem exists_grabbed (h : (e.pointerDown g p v slop).1 = .grabbed part) :
    ∃ d, Drag.Grabbed p v g part d ∧ (dragged e g p v slop []).session.blind = .origin ∧
      ∀ moves, (dragged e g p v slop moves).session.drag = some d ∧
        (dragged e g p v slop moves).geometry = d.follow g moves := by
  obtain ⟨d, hd, hpressed⟩ := grabbed_of_pointerDown h
  have hstart : dragged e g p v slop [] =
      ⟨{ e with drag := some d, moved := false, blind := .origin }, g⟩ := by
    rw [← hpressed]
    rfl
  refine ⟨d, hd, by rw [hstart], fun moves => ?_⟩
  induction moves using List.reverseRecOn with
  | nil => exact ⟨by rw [hstart], by rw [hstart]; rfl⟩
  | append_singleton moves m ih =>
    obtain ⟨hdrag, hgeometry, -⟩ := feed_move_of_drag ih.1 m
    rw [dragged_concat, Drag.follow_concat, ← ih.2]
    exact ⟨hdrag, hgeometry⟩

end Reshaping

end

end ShapeOverlay
