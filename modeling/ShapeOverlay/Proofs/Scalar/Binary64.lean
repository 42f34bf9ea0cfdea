import Mathlib
import ShapeOverlay.Proofs.Scalar.Laws
import ShapeOverlay.Scalar.Binary64

/-! # Binary floating point numbers obey the laws of scalars

The arithmetic of `Float` unpacks its arguments into a sign, a mantissa and an exponent, computes
with these, and packs the result. So do the proofs here: a law is shown of unpacked numbers and
carried over.

* `rank`: unpacked numbers compare like their ranks in a linear order, not-a-number apart; hence
  `OrderedScalar Float`.
* `UAlike`: two unpacked numbers are the same but for the sign of a zero. Each operation keeps this,
  and packing turns it into `Scalar.Alike`; hence `SignlessScalar Float`. -/

namespace ShapeOverlay.Binary64

open Float.Model UnpackedFloat

/-! ### The order -/

/-- The rank of an unpacked number: first the class from negative to positive infinity, then the
exponent, then the mantissa, both of these turned round for negative numbers. -/
def rank : UnpackedFloat → ℤ ×ₗ ℤ ×ₗ ℤ
  | .infinity .negative => toLex (-2, toLex (0, 0))
  | .finite .negative m e _ => toLex (-1, toLex (-e, -m))
  | .zero _ | .notANumber => toLex (0, toLex (0, 0))
  | .finite .positive m e _ => toLex (1, toLex (e, m))
  | .infinity .positive => toLex (2, toLex (0, 0))

theorem le_iff_rank (f g : UnpackedFloat) :
    f.le g = true ↔ f ≠ .notANumber ∧ g ≠ .notANumber ∧ rank f ≤ rank g := by
  rcases f with (_ | _) | _ | _ | ⟨_ | _, m, e, hm⟩ <;>
    rcases g with (_ | _) | _ | _ | ⟨_ | _, n, k, hn⟩ <;>
    simp [UnpackedFloat.le, UnpackedFloat.compare, rank, Prod.Lex.toLex_le_toLex, compare,
      compareOfLessAndEq, Ordering.isLE, Ordering.swap, Ordering.then]
  all_goals split_ifs <;> simp <;> omega

theorem lt_iff_rank (f g : UnpackedFloat) :
    f.lt g = true ↔ f ≠ .notANumber ∧ g ≠ .notANumber ∧ rank f < rank g := by
  rcases f with (_ | _) | _ | _ | ⟨_ | _, m, e, hm⟩ <;>
    rcases g with (_ | _) | _ | _ | ⟨_ | _, n, k, hn⟩ <;>
    simp [UnpackedFloat.lt, UnpackedFloat.compare, rank, Prod.Lex.toLex_lt_toLex, compare,
      compareOfLessAndEq, Ordering.swap, Ordering.then]
  all_goals split_ifs <;> simp <;> omega

theorem beq_iff_rank (f g : UnpackedFloat) :
    f.beq g = true ↔ f ≠ .notANumber ∧ g ≠ .notANumber ∧ rank f = rank g := by
  rcases f with (_ | _) | _ | _ | ⟨_ | _, m, e, hm⟩ <;>
    rcases g with (_ | _) | _ | _ | ⟨_ | _, n, k, hn⟩ <;>
    simp [UnpackedFloat.beq, UnpackedFloat.compare, rank, compare, compareOfLessAndEq,
      Ordering.swap, Ordering.then]
  all_goals split_ifs <;> simp <;> omega

theorem float_le_iff {a b : Float} : a ≤ b ↔ a.toModel.unpack ≠ .notANumber ∧
    b.toModel.unpack ≠ .notANumber ∧ rank a.toModel.unpack ≤ rank b.toModel.unpack := by
  rw [← le_iff_rank]
  show a.le b = true ↔ _
  unfold Float.le
  exact decide_eq_true_iff

theorem float_lt_iff {a b : Float} : a < b ↔ a.toModel.unpack ≠ .notANumber ∧
    b.toModel.unpack ≠ .notANumber ∧ rank a.toModel.unpack < rank b.toModel.unpack := by
  rw [← lt_iff_rank]
  show a.lt b = true ↔ _
  unfold Float.lt
  exact decide_eq_true_iff

theorem float_beq_iff {a b : Float} : (a == b) = true ↔ a.toModel.unpack ≠ .notANumber ∧
    b.toModel.unpack ≠ .notANumber ∧ rank a.toModel.unpack = rank b.toModel.unpack := by
  rw [← beq_iff_rank]
  exact Iff.rfl

instance : OrderedScalar Float where
  le_trans {a b c} h h' := by
    have h := float_le_iff.mp h
    have h' := float_le_iff.mp h'
    exact float_le_iff.mpr ⟨h.1, h'.2.1, h.2.2.trans h'.2.2⟩
  le_self_left {a b} h := by
    have h := float_le_iff.mp h
    exact float_le_iff.mpr ⟨h.1, h.1, le_rfl⟩
  le_self_right {a b} h := by
    have h := float_le_iff.mp h
    exact float_le_iff.mpr ⟨h.2.1, h.2.1, le_rfl⟩
  le_total {a b} h h' := by
    have h := (float_le_iff.mp h).1
    have h' := (float_le_iff.mp h').1
    rcases le_total (rank a.toModel.unpack) (rank b.toModel.unpack) with hr | hr
    · exact Or.inl (float_le_iff.mpr ⟨h, h', hr⟩)
    · exact Or.inr (float_le_iff.mpr ⟨h', h, hr⟩)
  lt_iff {a b} := by
    constructor
    · intro h
      have h := float_lt_iff.mp h
      refine ⟨float_le_iff.mpr ⟨h.1, h.2.1, h.2.2.le⟩, fun h' => ?_⟩
      exact (float_le_iff.mp h').2.2.not_gt h.2.2
    · rintro ⟨h, h'⟩
      have h := float_le_iff.mp h
      refine float_lt_iff.mpr ⟨h.1, h.2.1, lt_of_not_ge fun hr => h' ?_⟩
      exact float_le_iff.mpr ⟨h.2.1, h.1, hr⟩
  beq_iff {a b} := by
    constructor
    · intro h
      have h := float_beq_iff.mp h
      exact ⟨float_le_iff.mpr ⟨h.1, h.2.1, h.2.2.le⟩, float_le_iff.mpr ⟨h.2.1, h.1, h.2.2.ge⟩⟩
    · rintro ⟨h, h'⟩
      have h := float_le_iff.mp h
      have h' := float_le_iff.mp h'
      exact float_beq_iff.mpr ⟨h.1, h.2.1, le_antisymm h.2.2 h'.2.2⟩
  zero_lt_one := by decide

/-! ### Zeros of either sign -/

/-- The same unpacked number but for the sign of a zero. -/
def UAlike (f g : UnpackedFloat) : Prop := f = g ∨ ∃ s t, f = .zero s ∧ g = .zero t

theorem eq_or_zero_of_rank {f g : UnpackedFloat} (hf : f ≠ .notANumber) (hg : g ≠ .notANumber)
    (h : rank f = rank g) : UAlike f g := by
  rcases f with (_ | _) | _ | _ | ⟨_ | _, m, e, hm⟩ <;>
    rcases g with (_ | _) | _ | _ | ⟨_ | _, n, k, hn⟩ <;>
    simp_all [UAlike, rank]

theorem uAlike_of_alike {a b : Float} (h : Scalar.Alike a b) :
    UAlike a.toModel.unpack b.toModel.unpack := by
  rcases h with rfl | h
  · exact Or.inl rfl
  · have h := float_beq_iff.mp h
    exact eq_or_zero_of_rank h.1 h.2.1 h.2.2

theorem alike_pack {f g : UnpackedFloat} (h : UAlike f g) :
    Scalar.Alike (Float.ofModel (pack f)) (Float.ofModel (pack g)) := by
  rcases h with rfl | ⟨s, t, rfl, rfl⟩
  · exact .refl _
  · right
    revert s t
    rintro (_ | _) (_ | _) <;> decide

theorem UAlike.trans {f g h : UnpackedFloat} (hfg : UAlike f g) (hgh : UAlike g h) :
    UAlike f h := by
  rcases hfg with rfl | ⟨s, t, rfl, rfl⟩
  · exact hgh
  · rcases hgh with rfl | ⟨s', t', -, rfl⟩
    · exact Or.inr ⟨s, t, rfl, rfl⟩
    · exact Or.inr ⟨s, t', rfl, rfl⟩

/-- The operation takes no notice of the sign of a zero, on either side. -/
def Signless (op : UnpackedFloat → UnpackedFloat → UnpackedFloat) : Prop :=
  (∀ s t g, UAlike (op (.zero s) g) (op (.zero t) g)) ∧
    ∀ f s t, UAlike (op f (.zero s)) (op f (.zero t))

theorem Signless.congr {op : UnpackedFloat → UnpackedFloat → UnpackedFloat} (hop : Signless op)
    {f g f' g' : UnpackedFloat} (h : UAlike f g) (h' : UAlike f' g') :
    UAlike (op f f') (op g g') := by
  have hl : UAlike (op f f') (op g f') := by
    rcases h with rfl | ⟨s, t, rfl, rfl⟩
    · exact Or.inl rfl
    · exact hop.1 s t f'
  refine hl.trans ?_
  rcases h' with rfl | ⟨s, t, rfl, rfl⟩
  · exact Or.inl rfl
  · exact hop.2 g s t

/-- An operation that makes a zero of two zeros, and overlooks a zero beside anything else. -/
theorem signless_of {op : UnpackedFloat → UnpackedFloat → UnpackedFloat}
    (hzero : ∀ s t, ∃ u, op (.zero s) (.zero t) = .zero u)
    (hleft : ∀ g, (∀ u, g ≠ .zero u) → ∀ s t, op (.zero s) g = op (.zero t) g)
    (hright : ∀ f, (∀ u, f ≠ .zero u) → ∀ s t, op f (.zero s) = op f (.zero t)) :
    Signless op := by
  refine ⟨fun s t g => ?_, fun f s t => ?_⟩
  · by_cases hg : ∃ u, g = .zero u
    · obtain ⟨u, rfl⟩ := hg
      obtain ⟨v, hv⟩ := hzero s u
      obtain ⟨w, hw⟩ := hzero t u
      exact Or.inr ⟨v, w, hv, hw⟩
    · exact Or.inl (hleft g (not_exists.mp hg) s t)
  · by_cases hf : ∃ u, f = .zero u
    · obtain ⟨u, rfl⟩ := hf
      obtain ⟨v, hv⟩ := hzero u s
      obtain ⟨w, hw⟩ := hzero u t
      exact Or.inr ⟨v, w, hv, hw⟩
    · exact Or.inl (hright f (not_exists.mp hf) s t)

theorem signless_add : Signless (.add .binary64) := by
  refine signless_of ?_ (fun g hg s t => ?_) fun f hf s t => ?_
  · rintro (_ | _) (_ | _) <;> exact ⟨_, rfl⟩
  · cases g with
    | zero u => exact absurd rfl (hg u)
    | _ => rfl
  · cases f with
    | zero u => exact absurd rfl (hf u)
    | _ => rfl

theorem signless_sub : Signless (.sub .binary64) := by
  refine signless_of ?_ (fun g hg s t => ?_) fun f hf s t => ?_
  · rintro (_ | _) (_ | _) <;> exact ⟨_, rfl⟩
  · cases g with
    | zero u => exact absurd rfl (hg u)
    | _ => rfl
  · cases f with
    | zero u => exact absurd rfl (hf u)
    | _ => rfl

theorem signless_mul : Signless (.mul .binary64) := by
  refine ⟨fun s t g => ?_, fun f s t => ?_⟩
  · rcases g with _ | _ | _ | _
    · exact Or.inl rfl
    · exact Or.inl rfl
    · exact Or.inr ⟨_, _, rfl, rfl⟩
    · exact Or.inr ⟨_, _, rfl, rfl⟩
  · rcases f with _ | _ | _ | _
    · exact Or.inl rfl
    · exact Or.inl rfl
    · exact Or.inr ⟨_, _, rfl, rfl⟩
    · exact Or.inr ⟨_, _, rfl, rfl⟩

/-- Only the dividend may change: the sign of a zero divisor shows in the quotient. -/
theorem uAlike_div {f g : UnpackedFloat} (h : UAlike f g) (k : UnpackedFloat) :
    UAlike (.div .binary64 f k) (.div .binary64 g k) := by
  rcases h with rfl | ⟨s, t, rfl, rfl⟩
  · exact Or.inl rfl
  · rcases k with _ | _ | _ | _
    · exact Or.inr ⟨_, _, rfl, rfl⟩
    · exact Or.inl rfl
    · exact Or.inl rfl
    · exact Or.inr ⟨_, _, rfl, rfl⟩

theorem abs_congr {a b : Float} (h : UAlike a.toModel.unpack b.toModel.unpack) : a.abs = b.abs := by
  have hu : a.toModel.unpack.abs = b.toModel.unpack.abs := by
    rcases h with h | ⟨s, t, hs, ht⟩
    · rw [h]
    · rw [hs, ht]; rfl
  exact congrArg (fun f => Float.ofModel (pack f)) hu

theorem norm_congr {a b c d : Float} (h : UAlike a.toModel.unpack b.toModel.unpack)
    (h' : UAlike c.toModel.unpack d.toModel.unpack) : norm a c = norm b d := by
  have hl : norm a c = norm b c := by
    have habs := abs_congr h
    unfold norm
    rcases h with h | ⟨s, t, hs, ht⟩
    · rw [h, habs]
    · rw [hs, ht]
      cases hc : c.toModel.unpack <;> rfl
  have hr : norm b c = norm b d := by
    have habs := abs_congr h'
    unfold norm
    rcases h' with h' | ⟨s, t, hs, ht⟩
    · rw [h', habs]
    · rw [hs, ht, habs]
      cases hb : b.toModel.unpack <;> rfl
  exact hl.trans hr

instance : SignlessScalar Float where
  alike_add h h' := alike_pack (signless_add.congr (uAlike_of_alike h) (uAlike_of_alike h'))
  alike_sub h h' := alike_pack (signless_sub.congr (uAlike_of_alike h) (uAlike_of_alike h'))
  alike_mul h h' := alike_pack (signless_mul.congr (uAlike_of_alike h) (uAlike_of_alike h'))
  alike_div c h := alike_pack (uAlike_div (uAlike_of_alike h) c.toModel.unpack)
  alike_norm h h' := Or.inl (norm_congr (uAlike_of_alike h) (uAlike_of_alike h'))

end ShapeOverlay.Binary64
