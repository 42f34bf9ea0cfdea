import ShapeOverlay.Picture
import ShapeOverlay.Proofs.Picture.Painting

/-! # Painting stops at the first failing call

Which calls a surface refuses may depend on how many calls it has been asked for before. Of some
primitives that are painted one after the other, it shows those before the first that it refuses
(`Surface.accepted`), and the error is that of the refused one (`Surface.refused?`). `paint_eq` is
the one description of painting that the pictures go through; where the kind of a call alone decides
whether it fails, both are plain searches (`accepted_of_fixed`, `refused?_of_fixed`).

A hidden shape has no primitive, so no call is made for it and none can fail. -/

namespace ShapeOverlay

/-! ### Primitives one after the other -/

namespace Surface

variable {α : Type}

/-- The surface refuses a primitive after `n` calls. -/
def refuses (s : Surface α) (n : Nat) (p : Primitive α) : Bool := s.faults n p.call

/-- **The primitives before the first one that is refused**, painted after `n` calls. -/
def accepted (s : Surface α) (n : Nat) (ps : List (Primitive α)) : List (Primitive α) :=
  ((ps.zipIdx n).takeWhile fun x => !s.refuses x.2 x.1).map (·.1)

/-- **The first primitive that is refused**, painted after `n` calls. -/
def refused? (s : Surface α) (n : Nat) (ps : List (Primitive α)) : Option (Primitive α) :=
  ((ps.zipIdx n).find? fun x => s.refuses x.2 x.1).map (·.1)

/-- The number of calls it takes: one for each primitive that is accepted, and the refused one. -/
def made (s : Surface α) (n : Nat) (ps : List (Primitive α)) : Nat :=
  (s.accepted n ps).length + (s.refused? n ps).toList.length

section Steps
variable {s : Surface α} {n : Nat} {p : Primitive α} {ps : List (Primitive α)}

theorem draw_of_refuses (h : s.refuses s.calls p = true) :
    s.draw p = ({ s with calls := s.calls + 1 }, some p.call.error) :=
  if_pos h

theorem draw_of_not_refuses (h : s.refuses s.calls p = false) :
    s.draw p = ({ s with calls := s.calls + 1, primitives := s.primitives ++ [p] }, none) :=
  if_neg (Bool.not_eq_true _ ▸ h)

theorem accepted_cons (s : Surface α) (n : Nat) (p : Primitive α) (ps : List (Primitive α)) :
    s.accepted n (p :: ps) = if s.refuses n p then [] else p :: s.accepted (n + 1) ps := by
  unfold accepted
  rw [List.zipIdx_cons, List.takeWhile_cons]
  cases s.refuses n p <;> rfl

theorem refused?_cons (s : Surface α) (n : Nat) (p : Primitive α) (ps : List (Primitive α)) :
    s.refused? n (p :: ps) = if s.refuses n p then some p else s.refused? (n + 1) ps := by
  unfold refused?
  rw [List.zipIdx_cons, List.find?_cons]
  cases s.refuses n p <;> rfl

theorem made_cons (s : Surface α) (n : Nat) (p : Primitive α) (ps : List (Primitive α)) :
    s.made n (p :: ps) = if s.refuses n p then 1 else 1 + s.made (n + 1) ps := by
  unfold made
  rw [accepted_cons, refused?_cons]
  split_ifs
  · rfl
  · rw [List.length_cons]
    omega

end Steps

/-- **What painting does.** The surface shows what is accepted after what it showed before, and the
error is that of the first call that is refused, if there is one. -/
theorem paint_eq : ∀ (s : Surface α) (ps : List (Primitive α)), s.paint ps =
    ({ s with
        primitives := s.primitives ++ s.accepted s.calls ps
        calls := s.calls + s.made s.calls ps },
      (s.refused? s.calls ps).map (·.call.error))
  | s, [] => by simp [paint, accepted, refused?, made]
  | s, p :: ps => by
    unfold paint
    rw [accepted_cons, refused?_cons, made_cons]
    cases h : s.refuses s.calls p with
    | true => simp [draw_of_refuses h]
    | false =>
      rw [draw_of_not_refuses h]
      have ih : Surface.paint { s with calls := s.calls + 1, primitives := s.primitives ++ [p] } ps =
          ({ s with
              primitives := s.primitives ++ [p] ++ s.accepted (s.calls + 1) ps
              calls := s.calls + 1 + s.made (s.calls + 1) ps },
            (s.refused? (s.calls + 1) ps).map (·.call.error)) := paint_eq _ ps
      simpa [Nat.add_assoc] using ih

theorem clear_eq (s : Surface α) : s.clear = if s.faults s.calls .clear then
      ({ s with calls := s.calls + 1 }, some .noContext)
    else ({ s with calls := s.calls + 1, primitives := [], clears := s.clears + 1 }, none) :=
  rfl

/-- **What repainting does.** Nothing if the surface cannot be cleared; otherwise what it showed
before does not matter. -/
theorem repaint_eq (s : Surface α) (picture : Viewport α → List (Primitive α)) :
    s.repaint picture = if s.faults s.calls .clear then
      ({ s with calls := s.calls + 1 }, some .noContext)
    else
      ({ s with
          primitives := s.accepted (s.calls + 1) (picture s.viewport)
          clears := s.clears + 1
          calls := s.calls + 1 + s.made (s.calls + 1) (picture s.viewport) },
        (s.refused? (s.calls + 1) (picture s.viewport)).map (·.call.error)) := by
  unfold repaint
  rw [clear_eq]
  split_ifs with h
  · rfl
  · exact paint_eq _ _

/-! ### Calls that fail by their kind -/

section Fixed
variable {s : Surface α} {failing : SurfaceCall → Bool}

theorem accepted_of_fixed (h : ∀ n call, s.faults n call = failing call) (n : Nat)
    (ps : List (Primitive α)) : s.accepted n ps = ps.takeWhile fun p => !failing p.call := by
  induction ps generalizing n with
  | nil => rfl
  | cons p ps ih =>
    rw [accepted_cons, ih, refuses, h, List.takeWhile_cons]
    cases failing p.call <;> rfl

theorem refused?_of_fixed (h : ∀ n call, s.faults n call = failing call) (n : Nat)
    (ps : List (Primitive α)) : s.refused? n ps = ps.find? fun p => failing p.call := by
  induction ps generalizing n with
  | nil => rfl
  | cons p ps ih =>
    rw [refused?_cons, ih, refuses, h, List.find?_cons]
    cases failing p.call <;> rfl

end Fixed

end Surface

/-! ### The pictures -/

/-- **Painting stops exactly at the first failing call**, whichever calls fail. Redrawing leaves the
surface as it is if it cannot be cleared. Otherwise the surface shows the outlines of the shapes
that are not hidden before the first one whose outline is refused, each in the shape's own style,
whatever it showed before; no error is reported exactly if no outline is refused. The overlay adds,
after what the surface showed, the fill of the mover and then the fill and the outline of each
handle in turn, again up to the first that is refused. If it is the kind of a call that decides
whether it fails, what is shown is the longest part from the beginning without a call of a failing
kind. -/
theorem painting_stops_at_first_fault (s : Surface Float) (shapes : List (Shape Float))
    (o : Overlay Float) (theme : Theme) :
    let outlines := (shapes.filter (·.status ≠ .hidden)).map fun shape =>
      shape.geometry.outline
        { color := shape.lineColor
          width := if shape.status = .inactive then shape.lineWidth / 2 else shape.lineWidth }
        false s.viewport
    let parts := Primitive.fill o.mover theme.moverFill :: o.handles.flatMap fun center =>
      let square := Bounds.around center theme.handleRadius theme.handleRadius
      [.fill square theme.handleFill,
        .path square.corners true { color := theme.handleStroke, width := 1 }]
    (s.repaint (shapesPicture shapes) =
      if s.faults s.calls .clear then ({ s with calls := s.calls + 1 }, some .noContext)
      else
        ({ s with
            primitives := s.accepted (s.calls + 1) outlines
            clears := s.clears + 1
            calls := s.calls + 1 + s.made (s.calls + 1) outlines },
          (s.refused? (s.calls + 1) outlines).map (·.call.error))) ∧
    (s.paint (o.picture theme) =
      ({ s with
          primitives := s.primitives ++ s.accepted s.calls parts
          calls := s.calls + s.made s.calls parts },
        (s.refused? s.calls parts).map (·.call.error))) ∧
    ∀ failing : SurfaceCall → Bool,
      let redrawn := { s with faults := fun _ => failing }.repaint (shapesPicture shapes)
      let overlaid := { s with faults := fun _ => failing }.paint (o.picture theme)
      (redrawn.1.primitives, redrawn.2) =
        (if failing .clear then (s.primitives, some .noContext)
        else (outlines.takeWhile fun p => !failing p.call,
          (outlines.find? fun p => failing p.call).map (·.call.error))) ∧
      (overlaid.1.primitives, overlaid.2) =
        (s.primitives ++ parts.takeWhile fun p => !failing p.call,
          (parts.find? fun p => failing p.call).map (·.call.error)) := by
  intro outlines parts
  refine ⟨?_, Surface.paint_eq s _, fun failing => ?_⟩
  · rw [Surface.repaint_eq, shapesPicture_eq]
  · have hfixed : ∀ n call, ({ s with faults := fun _ => failing } : Surface Float).faults n call =
        failing call := fun _ _ => rfl
    constructor
    · rw [Surface.repaint_eq, shapesPicture_eq, Surface.accepted_of_fixed hfixed,
        Surface.refused?_of_fixed hfixed]
      split_ifs <;> rfl
    · rw [Surface.paint_eq, Surface.accepted_of_fixed hfixed, Surface.refused?_of_fixed hfixed]
      rfl

/-- A rectangle, a hidden circle, a visible one and a triangle. -/
def mixed : List (Shape Float) :=
  [{ id := .nil, geometry := .rectangle ⟨0, 0⟩ ⟨1, 1⟩ },
    { id := .nil, geometry := .circle ⟨0.5, 0.5⟩ ⟨0.25, 0.25⟩, status := .hidden },
    { id := .nil, geometry := .circle ⟨0.5, 0.5⟩ ⟨0.25, 0.25⟩ },
    { id := .nil, geometry := .polygon [⟨0, 0⟩, ⟨1, 0⟩, ⟨0, 1⟩] }]

example : (({ viewport := ⟨100, 100⟩, faults := fun _ call => call = .strokeCircle } :
      Surface Float).repaint (shapesPicture mixed)).2 = some (.refused .strokeCircle) := by
  decide +kernel

end ShapeOverlay
