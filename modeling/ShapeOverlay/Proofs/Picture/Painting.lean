import Mathlib.Tactic.SplitIfs
import ShapeOverlay.Surface

/-! # Painting on surfaces

Calls leave alone which of them fail, and only resizing touches the size. A surface none of whose
calls fails shows exactly what it was last painted with (`primitives_repaint`). -/

namespace ShapeOverlay.Surface

variable {α : Type}

/-! ### What calls leave alone -/

@[simp] theorem faults_resize (s : Surface α) (v : Viewport α) :
    (s.resize v).1.faults = s.faults := by
  unfold resize attempt
  dsimp only
  split_ifs <;> rfl

@[simp] theorem faults_clear (s : Surface α) : s.clear.1.faults = s.faults := by
  unfold clear attempt
  dsimp only
  split_ifs <;> rfl

@[simp] theorem faults_draw (s : Surface α) (p : Primitive α) : (s.draw p).1.faults = s.faults := by
  unfold draw attempt
  dsimp only
  split_ifs <;> rfl

theorem viewport_resize (s : Surface α) (v : Viewport α) :
    (s.resize v).1.viewport = v ∨ (s.resize v).1.viewport = s.viewport := by
  unfold resize attempt
  dsimp only
  split_ifs
  · exact Or.inr rfl
  · exact Or.inl rfl

@[simp] theorem viewport_clear (s : Surface α) : s.clear.1.viewport = s.viewport := by
  unfold clear attempt
  dsimp only
  split_ifs <;> rfl

@[simp] theorem viewport_draw (s : Surface α) (p : Primitive α) :
    (s.draw p).1.viewport = s.viewport := by
  unfold draw attempt
  dsimp only
  split_ifs <;> rfl

/-- What no single call changes, painting does not change. -/
theorem paint_keeps {β : Type} (f : Surface α → β) (hf : ∀ s p, f (s.draw p).1 = f s) :
    ∀ (s : Surface α) (ps : List (Primitive α)), f (s.paint ps).1 = f s
  | _, [] => rfl
  | s, p :: ps => by
    have hdraw := hf s p
    unfold paint
    revert hdraw
    rcases s.draw p with ⟨t, _ | error⟩
    · exact fun hdraw => (paint_keeps f hf t ps).trans hdraw
    · exact id

theorem repaint_keeps {β : Type} (f : Surface α → β) (hc : ∀ s, f s.clear.1 = f s)
    (hf : ∀ s p, f (s.draw p).1 = f s) (s : Surface α) (picture : Viewport α → List (Primitive α)) :
    f (s.repaint picture).1 = f s := by
  have hclear := hc s
  unfold repaint
  revert hclear
  rcases s.clear with ⟨t, _ | error⟩
  · exact fun hclear => (paint_keeps f hf t _).trans hclear
  · exact id

@[simp] theorem faults_repaint (s : Surface α) (picture : Viewport α → List (Primitive α)) :
    (s.repaint picture).1.faults = s.faults :=
  repaint_keeps _ faults_clear faults_draw s picture

@[simp] theorem viewport_repaint (s : Surface α) (picture : Viewport α → List (Primitive α)) :
    (s.repaint picture).1.viewport = s.viewport :=
  repaint_keeps _ viewport_clear viewport_draw s picture

/-! ### Surfaces that never fail -/

/-- No call ever fails. -/
def IsFaultless (s : Surface α) : Prop := ∀ n call, s.faults n call = false

theorem draw_of_isFaultless {s : Surface α} (h : s.IsFaultless) (p : Primitive α) :
    s.draw p = ({ s with calls := s.calls + 1, primitives := s.primitives ++ [p] }, none) := by
  simp [draw, attempt, h s.calls p.call]

theorem clear_of_isFaultless {s : Surface α} (h : s.IsFaultless) :
    s.clear =
      ({ s with calls := s.calls + 1, primitives := [], clears := s.clears + 1 }, none) := by
  simp [clear, attempt, h s.calls .clear]

theorem resize_of_isFaultless {s : Surface α} (h : s.IsFaultless) (v : Viewport α) :
    s.resize v = ({ s with calls := s.calls + 1, viewport := v, primitives := [] }, none) := by
  simp [Surface.resize, attempt, h s.calls .resize]

theorem IsFaultless.resize {s : Surface α} (h : s.IsFaultless) (v : Viewport α) :
    (s.resize v).1.IsFaultless := by
  rwa [IsFaultless, faults_resize]

theorem IsFaultless.repaint {s : Surface α} (h : s.IsFaultless)
    (picture : Viewport α → List (Primitive α)) : (s.repaint picture).1.IsFaultless := by
  rwa [IsFaultless, faults_repaint]

theorem primitives_paint : ∀ {s : Surface α} (ps : List (Primitive α)), s.IsFaultless →
    (s.paint ps).1.primitives = s.primitives ++ ps
  | s, [], _ => (List.append_nil _).symm
  | s, p :: ps, h => by
    unfold paint
    rw [draw_of_isFaultless h]
    refine (primitives_paint ps ?_).trans ?_
    · exact h
    · simp

/-- **A surface none of whose calls fails shows what it was last painted with.** -/
theorem primitives_repaint {s : Surface α} (h : s.IsFaultless)
    (picture : Viewport α → List (Primitive α)) :
    (s.repaint picture).1.primitives = picture s.viewport := by
  unfold repaint
  rw [clear_of_isFaultless h]
  refine (primitives_paint _ ?_).trans ?_
  · exact h
  · simp

/-! ### Blank surfaces -/

theorem primitives_of_isBlank {s : Surface α} (h : s.isBlank = true) : s.primitives = [] :=
  List.isEmpty_iff.mp h

theorem primitives_repaint_blank (v : Viewport α) (picture : Viewport α → List (Primitive α)) :
    (({ viewport := v } : Surface α).repaint picture).1.primitives = picture v :=
  primitives_repaint (fun _ _ => rfl) picture

end ShapeOverlay.Surface
