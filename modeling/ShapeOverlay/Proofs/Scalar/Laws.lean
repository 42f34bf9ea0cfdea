import Mathlib.Tactic.SplitIfs
import ShapeOverlay.Scalar

/-! # Laws of scalars

The class `Scalar` has operations only. The laws below hold of exact numbers and of floating point
numbers alike, where some scalars are comparable with nothing and zero may come with two signs.

* `OrderedScalar`: the scalars that are comparable with themselves are linearly preordered, and the
  strict order and the test for equality follow from that order.
* `Scalar.Alike`: two scalars are the same but for the sign of a zero.
* `SignlessScalar`: arithmetic takes scalars that are alike to scalars that are alike.
* `Scalar.Domain`: a property of scalars that arithmetic keeps within the unit range, as far as
  drags make use of it. -/

namespace ShapeOverlay

/-! ### The order -/

/-- Scalars whose comparable elements are linearly preordered. -/
class OrderedScalar (α : Type) [Scalar α] : Prop where
  le_trans {a b c : α} : a ≤ b → b ≤ c → a ≤ c
  le_self_left {a b : α} : a ≤ b → a ≤ a
  le_self_right {a b : α} : a ≤ b → b ≤ b
  le_total {a b : α} : a ≤ a → b ≤ b → a ≤ b ∨ b ≤ a
  lt_iff {a b : α} : a < b ↔ a ≤ b ∧ ¬ b ≤ a
  beq_iff {a b : α} : (a == b) = true ↔ a ≤ b ∧ b ≤ a
  zero_lt_one : (0 : α) < 1

namespace Scalar

open OrderedScalar

section Order
variable {α : Type} [Scalar α] [OrderedScalar α] {a b c : α}

theorem lt_irrefl (a : α) : ¬ a < a := fun h => (lt_iff.mp h).2 (lt_iff.mp h).1

theorem le_of_lt (h : a < b) : a ≤ b := (lt_iff.mp h).1

theorem lt_asymm (h : a < b) : ¬ b < a := fun h' => (lt_iff.mp h).2 (le_of_lt h')

theorem beq_symm (h : (a == b) = true) : (b == a) = true := beq_iff.mpr (beq_iff.mp h).symm

theorem beq_trans (h : (a == b) = true) (h' : (b == c) = true) : (a == c) = true := by
  rw [beq_iff] at h h' ⊢
  exact ⟨le_trans h.1 h'.1, le_trans h'.2 h.2⟩

theorem le_of_not_lt (ha : a ≤ a) (hb : b ≤ b) (h : ¬ a < b) : b ≤ a := by
  rcases le_total ha hb with hab | hba
  · exact Classical.byContradiction fun hba => h (lt_iff.mpr ⟨hab, hba⟩)
  · exact hba

theorem le_lesser_iff (ha : a ≤ a) (hb : b ≤ b) : c ≤ lesser a b ↔ c ≤ a ∧ c ≤ b := by
  unfold lesser
  split_ifs with h
  · have hab : a ≤ b := h.resolve_right fun hself => hself hb
    exact ⟨fun hc => ⟨hc, le_trans hc hab⟩, fun hc => hc.1⟩
  · have hba : b ≤ a := (le_total ha hb).resolve_left fun hab => h (Or.inl hab)
    exact ⟨fun hc => ⟨le_trans hc hba, hc⟩, fun hc => hc.2⟩

theorem greater_le_iff (ha : a ≤ a) (hb : b ≤ b) : greater a b ≤ c ↔ a ≤ c ∧ b ≤ c := by
  unfold greater
  split_ifs with h
  · have hba : b ≤ a := h.resolve_right fun hself => hself hb
    exact ⟨fun hc => ⟨hc, le_trans hba hc⟩, fun hc => hc.1⟩
  · have hab : a ≤ b := (le_total ha hb).resolve_right fun hba => h (Or.inl hba)
    exact ⟨fun hc => ⟨le_trans hab hc, hc⟩, fun hc => hc.2⟩

/-- The smaller of two scalars is comparable with itself if one of them is. -/
theorem lesser_le_self_iff : lesser a b ≤ lesser a b ↔ a ≤ a ∨ b ≤ b := by
  unfold lesser
  split_ifs with h
  · refine ⟨Or.inl, fun hself => hself.elim id fun hb => ?_⟩
    exact le_self_left (h.resolve_right fun hself => hself hb)
  · have hb : b ≤ b := Classical.not_not.mp fun hself => h (Or.inr hself)
    exact ⟨fun _ => Or.inr hb, fun _ => hb⟩

theorem lesser_le_greater (h : a ≤ a ∨ b ≤ b) : lesser a b ≤ greater a b := by
  unfold lesser greater
  split_ifs with hab hba hba
  · refine h.elim id fun hb => ?_
    exact le_self_left (hab.resolve_right fun hself => hself hb)
  · exact hab.resolve_right fun hself => hba (Or.inr hself)
  · exact hba.resolve_right fun hself => hab (Or.inr hself)
  · exact Classical.not_not.mp fun hself => hab (Or.inr hself)

theorem lesser_beq_left (h : a ≤ b) : (lesser a b == a) = true := by
  unfold lesser
  rw [if_pos (Or.inl h)]
  exact beq_iff.mpr ⟨le_self_left h, le_self_left h⟩

theorem lesser_beq_right (h : b ≤ a) : (lesser a b == b) = true := by
  unfold lesser
  split_ifs with hab
  · have hab : a ≤ b := hab.resolve_right fun hself => hself (le_self_left h)
    exact beq_iff.mpr ⟨hab, h⟩
  · exact beq_iff.mpr ⟨le_self_left h, le_self_left h⟩

theorem greater_beq_left (h : b ≤ a) : (greater a b == a) = true := by
  unfold greater
  rw [if_pos (Or.inl h)]
  exact beq_iff.mpr ⟨le_self_right h, le_self_right h⟩

theorem greater_beq_right (h : a ≤ b) : (greater a b == b) = true := by
  unfold greater
  split_ifs with hba
  · have hba : b ≤ a := hba.resolve_right fun hself => hself (le_self_right h)
    exact beq_iff.mpr ⟨h, hba⟩
  · exact beq_iff.mpr ⟨le_self_right h, le_self_right h⟩

end Order

/-! ### Scalars that are alike -/

/-- **The same scalar but for the sign of a zero**: equal, or taken for equal. -/
def Alike {α : Type} [BEq α] (a b : α) : Prop := a = b ∨ (a == b) = true

theorem Alike.refl {α : Type} [BEq α] (a : α) : Alike a a := Or.inl rfl

section Alike
variable {α : Type} [Scalar α] [OrderedScalar α] {a b c d : α}

theorem Alike.symm (h : Alike a b) : Alike b a := by
  rcases h with rfl | h
  · exact .refl a
  · exact Or.inr (beq_symm h)

theorem Alike.trans (h : Alike a b) (h' : Alike b c) : Alike a c := by
  rcases h with rfl | h
  · exact h'
  rcases h' with rfl | h'
  · exact Or.inr h
  · exact Or.inr (beq_trans h h')

theorem Alike.le (h : Alike a b) (h' : Alike c d) (hle : a ≤ c) : b ≤ d := by
  have hba : b ≤ c := by
    rcases h with rfl | h
    · exact hle
    · exact le_trans (beq_iff.mp h).2 hle
  rcases h' with rfl | h'
  · exact hba
  · exact le_trans hba (beq_iff.mp h').1

theorem Alike.le_iff (h : Alike a b) (h' : Alike c d) : a ≤ c ↔ b ≤ d :=
  ⟨h.le h', h.symm.le h'.symm⟩

theorem Alike.lesser (h : Alike a b) (h' : Alike c d) : Alike (lesser a c) (lesser b d) := by
  unfold Scalar.lesser
  simp only [h.le_iff h', h'.le_iff h']
  split_ifs
  · exact h
  · exact h'

theorem Alike.greater (h : Alike a b) (h' : Alike c d) : Alike (greater a c) (greater b d) := by
  unfold Scalar.greater
  simp only [h'.le_iff h, h'.le_iff h']
  split_ifs
  · exact h
  · exact h'

end Alike

end Scalar

/-- Scalars whose arithmetic does not tell zeros of different sign apart. A divisor has to be the
same on both sides, as the sign of a zero divisor shows in the quotient. -/
class SignlessScalar (α : Type) [Scalar α] : Prop extends OrderedScalar α where
  alike_add {a b c d : α} : Scalar.Alike a b → Scalar.Alike c d → Scalar.Alike (a + c) (b + d)
  alike_sub {a b c d : α} : Scalar.Alike a b → Scalar.Alike c d → Scalar.Alike (a - c) (b - d)
  alike_mul {a b c d : α} : Scalar.Alike a b → Scalar.Alike c d → Scalar.Alike (a * c) (b * d)
  alike_div {a b : α} (c : α) : Scalar.Alike a b → Scalar.Alike (a / c) (b / c)
  alike_norm {a b c d : α} :
    Scalar.Alike a b → Scalar.Alike c d → Scalar.Alike (Scalar.norm a c) (Scalar.norm b d)

/-! ### The unit range -/

namespace Scalar

open OrderedScalar

section Unit
variable {α : Type} [Scalar α] (N : α → Prop)

/-- Not above one, with the property. -/
def Low (a : α) : Prop := ¬ 1 < a ∧ N a

/-- Not below zero, with the property. -/
def High (a : α) : Prop := ¬ a < 0 ∧ N a

/-- Neither below zero nor above one, with the property. -/
def Fits (a : α) : Prop := ¬ a < 0 ∧ ¬ 1 < a ∧ N a

/-- **A property of numbers out of which drags do not lead**, where `S` is a property of the sizes
of surfaces. All numbers form such a domain, and so do the numbers that are comparable with
themselves if sizes are finite. -/
structure Domain (S : α → Prop) : Prop where
  of_le {a b : α} : a ≤ b → N a ∧ N b
  add {a b : α} : Fits N a → N b → N (a + b)
  sub {a b : α} : N a → Fits N b → N (a - b)
  sub_of_high {a b : α} : High N a → Low N b → N (a - b)
  low_sub {a b : α} : Fits N a → High N b → Low N (a - b)
  high_abs {a : α} : N a → High N (abs a)
  mul {a w : α} : N a → S w → ¬ w ≤ 0 → N (a * w)
  div {a w : α} : N a → S w → ¬ w ≤ 0 → N (a / w)
  high_div {a w : α} : High N a → S w → ¬ w ≤ 0 → High N (a / w)
  high_norm {a b : α} : N a → N b → High N (norm a b)

end Unit

section Fits
variable {α : Type} [Scalar α] {N S : α → Prop} {a b : α}

theorem Fits.low (h : Fits N a) : Low N a := ⟨h.2.1, h.2.2⟩

theorem Fits.high (h : Fits N a) : High N a := ⟨h.1, h.2.2⟩

theorem lesser_of {P : α → Prop} (ha : P a) (hb : P b) : P (lesser a b) := by
  unfold lesser
  split_ifs
  · exact ha
  · exact hb

theorem greater_of {P : α → Prop} (ha : P a) (hb : P b) : P (greater a b) := by
  unfold greater
  split_ifs
  · exact ha
  · exact hb

variable [OrderedScalar α]

theorem Domain.fits_zero (hN : Domain N S) : Fits N 0 :=
  ⟨lt_irrefl 0, lt_asymm zero_lt_one, (hN.of_le (le_of_lt zero_lt_one)).1⟩

theorem Domain.fits_one (hN : Domain N S) : Fits N 1 :=
  ⟨lt_asymm zero_lt_one, lt_irrefl 1, (hN.of_le (le_of_lt zero_lt_one)).2⟩

/-- A number that is comparable with itself lies in the unit range once it is clamped. -/
theorem clampUnit_mem (h : clampUnit a ≤ clampUnit a) : 0 ≤ clampUnit a ∧ clampUnit a ≤ 1 := by
  have h01 : (0 : α) ≤ 1 := le_of_lt zero_lt_one
  revert h
  unfold clampUnit
  split_ifs with h0 h1
  · exact fun _ => ⟨le_self_left h01, h01⟩
  · exact fun _ => ⟨h01, le_self_right h01⟩
  · intro h
    exact ⟨le_of_not_lt h (le_self_left h01) h0, le_of_not_lt (le_self_right h01) h h1⟩

theorem Domain.fits_clampUnit (hN : Domain N S) (h : N a) : Fits N (clampUnit a) := by
  unfold clampUnit
  split_ifs with h0 h1
  · exact hN.fits_zero
  · exact hN.fits_one
  · exact ⟨h0, h1, h⟩

/-- The larger of a number and zero is not below zero, and is comparable. -/
theorem Domain.high_greater (hN : Domain N S) (a : α) : High N (greater a 0) := by
  have hself : (0 : α) ≤ 0 := le_self_left (le_of_lt zero_lt_one)
  unfold greater
  split_ifs with h
  · rcases h with h | h
    · exact ⟨fun hlt => (lt_iff.mp hlt).2 h, (hN.of_le h).2⟩
    · exact absurd hself h
  · exact hN.fits_zero.high

end Fits

end Scalar

end ShapeOverlay
