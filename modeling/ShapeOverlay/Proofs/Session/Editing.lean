import ShapeOverlay.Proofs.Picture.Alike
import ShapeOverlay.Session.Editing

/-! # Events while a shape is edited

No event changes which shape is edited, and a move that is without effect gives back a geometry that
is the same but for the signs of zeros. -/

namespace ShapeOverlay.Editing

variable {α : Type} [Scalar α]

@[simp] theorem target_pointerDown (e : Editing α) (g : Geometry α) (p : Point α) (v : Viewport α)
    (slop : α) : (e.pointerDown g p v slop).2.target = e.target := by
  unfold pointerDown
  split
  · rfl
  · split <;> rfl

@[simp] theorem target_pointerMove (e : Editing α) (g : Geometry α) (p : Point α)
    (v : Viewport α) : (e.pointerMove g p v).2.2.target = e.target := by
  unfold pointerMove
  split
  · rfl
  · dsimp only
    split_ifs <;> rfl

omit [Scalar α] in
@[simp] theorem target_pointerUp (e : Editing α) : e.pointerUp.2.target = e.target := by
  unfold pointerUp
  split <;> rfl

@[simp] theorem target_click (e : Editing α) (g : Geometry α) (p : Point α) (v : Viewport α)
    (slop : α) : (e.click g p v slop).2.target = e.target := by
  unfold click
  split_ifs
  · rfl
  · split <;> rfl

/-- A move without effect gives back a geometry that is alike. -/
theorem alike_pointerMove {e : Editing α} {g : Geometry α} {p : Point α} {v : Viewport α}
    (h : (e.pointerMove g p v).1 ≠ .changed) : (e.pointerMove g p v).2.1.Alike g := by
  unfold pointerMove at h ⊢
  split
  · exact .refl g
  · next drag hdrag =>
    simp only [hdrag] at h ⊢
    split_ifs at h ⊢ with heq
    · exact Geometry.alike_of_beq heq
    · exact absurd rfl h

end ShapeOverlay.Editing
