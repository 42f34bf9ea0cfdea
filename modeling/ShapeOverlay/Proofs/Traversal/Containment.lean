import Mathlib.Tactic.Tauto
import ShapeOverlay.Plane.Bounds
import ShapeOverlay.Proofs.Scalar.Laws

/-! # Containment of boxes

Containment is transitive, and two boxes contain each other exactly if they are taken for equal
(`beq_iff_contains`). So strict containment is containment that does not go both ways
(`strictlyContains_iff`), and a strict partial order, whatever the coordinates are: a box with a
coordinate that is comparable with nothing contains nothing and is contained in nothing. -/

namespace ShapeOverlay.Bounds

open OrderedScalar

variable {α : Type} [Scalar α] [OrderedScalar α] {b c d : Bounds α}

omit [OrderedScalar α] in
theorem contains_iff : b.contains c = true ↔
    b.min.x ≤ c.min.x ∧ b.min.y ≤ c.min.y ∧ c.max.x ≤ b.max.x ∧ c.max.y ≤ b.max.y := by
  simp [contains, and_assoc]

theorem contains_trans (h : b.contains c = true) (h' : c.contains d = true) :
    b.contains d = true := by
  rw [contains_iff] at h h' ⊢
  obtain ⟨h1, h2, h3, h4⟩ := h
  obtain ⟨h1', h2', h3', h4'⟩ := h'
  exact ⟨le_trans h1 h1', le_trans h2 h2', le_trans h3' h3, le_trans h4' h4⟩

/-- What contains a box contains its points. -/
theorem containsPoint_of_contains (h : b.contains c = true) {p : Point α}
    (hp : c.containsPoint p = true) : b.containsPoint p = true := by
  simp only [containsPoint, Bool.and_eq_true, decide_eq_true_eq] at hp ⊢
  rw [contains_iff] at h
  obtain ⟨h1, h2, h3, h4⟩ := h
  obtain ⟨⟨⟨hp1, hp2⟩, hp3⟩, hp4⟩ := hp
  exact ⟨⟨⟨le_trans h1 hp1, le_trans hp2 h3⟩, le_trans h2 hp3⟩, le_trans hp4 h4⟩

/-- Two boxes are taken for equal exactly if each contains the other. -/
theorem beq_iff_contains : (b == c) = true ↔ b.contains c = true ∧ c.contains b = true := by
  have hpt : ∀ p q : Point α,
      (p == q) = true ↔ (p.x ≤ q.x ∧ q.x ≤ p.x) ∧ p.y ≤ q.y ∧ q.y ≤ p.y := by
    intro p q
    show (p.x == q.x && p.y == q.y) = true ↔ _
    rw [Bool.and_eq_true, beq_iff, beq_iff]
  show (b.min == c.min && b.max == c.max) = true ↔ _
  rw [Bool.and_eq_true, hpt, hpt, contains_iff, contains_iff]
  tauto

/-- **Strict containment is containment one way only.** -/
theorem strictlyContains_iff :
    b.strictlyContains c = true ↔ b.contains c = true ∧ ¬ c.contains b = true := by
  rw [strictlyContains, bne, Bool.and_eq_true, Bool.not_eq_true', ← Bool.not_eq_true,
    beq_iff_contains]
  tauto

theorem strictlyContains_irrefl (b : Bounds α) : ¬ b.strictlyContains b = true := by
  rw [strictlyContains_iff]
  exact fun h => h.2 h.1

theorem strictlyContains_asymm (h : b.strictlyContains c = true) :
    ¬ c.strictlyContains b = true := by
  rw [strictlyContains_iff] at h ⊢
  exact fun h' => h.2 h'.1

theorem strictlyContains_trans (h : b.strictlyContains c = true)
    (h' : c.strictlyContains d = true) : b.strictlyContains d = true := by
  rw [strictlyContains_iff] at h h' ⊢
  exact ⟨contains_trans h.1 h'.1, fun hdb => h.2 (contains_trans h'.1 hdb)⟩

end ShapeOverlay.Bounds
