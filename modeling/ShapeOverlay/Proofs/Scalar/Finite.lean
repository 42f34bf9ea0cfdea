import ShapeOverlay.Json.Basic
import ShapeOverlay.Proofs.Scalar.Range

/-! # Integers of 64 bits are finite as floats

A float is far from infinity as long as its exponent is bounded (`Moderate`). Packing keeps such a
bound (`moderate_pack`), rounding raises the exponent no further than to where the leading digit of
the mantissa has its place (`moderate_roundWithAccuracy`), and a product adds up the bounds of its
factors (`moderate_mul`). An integer of 64 bits becomes a float by a conversion and a product with
one, or by a single rounding, so it is finite (`isFinite_ofInt`), and so is every number of a JSON
text (`Number.isFinite_toFloat`). -/

namespace ShapeOverlay

namespace Binary64

open Float.Model UnpackedFloat

/-- The unpacked float is zero, or finite with an exponent of at most `k`. -/
def Moderate (k : Int) : UnpackedFloat → Prop
  | .zero _ => True
  | .finite _ _ e _ => e ≤ k
  | .infinity _ | .notANumber => False

theorem Moderate.isFinite {k : Int} : ∀ {f : UnpackedFloat}, Moderate k f → f.isFinite = true
  | .zero _, _ => rfl
  | .finite _ _ _ _, _ => rfl

theorem Moderate.zero_or_finite {k : Int} : ∀ {f : UnpackedFloat}, Moderate k f →
    (∃ s, f = .zero s) ∨ ∃ s m e hm, f = .finite s m e hm ∧ e ≤ k
  | .zero s, _ => .inl ⟨s, rfl⟩
  | .finite s m e hm, h => .inr ⟨s, m, e, hm, rfl, h⟩

theorem Moderate.neg {k : Int} : ∀ {f : UnpackedFloat}, Moderate k f → Moderate k f.neg
  | .zero _, _ => trivial
  | .finite _ _ _ _, h => h

/-! ### Packing -/

theorem moderate_components {s : Sign} {x : BitVec 11} {y : BitVec 52} {k : Int}
    (hx : x.toNat < 2047) (hk : -1074 ≤ k) (h : (x.toNat : Int) - 1075 ≤ k) :
    Moderate k (UnpackedFloat.unpack .binary64 (packComponents .binary64 s x y)) := by
  have hbias : Format.binary64.exponentBias = 1023 := by decide
  have hfull : x ≠ -1#11 := by
    rintro rfl
    exact absurd hx (by decide)
  unfold UnpackedFloat.unpack
  simp only [unpackMantissa_packComponents, unpackExponent_packComponents,
    unpackSign_packComponents, Sign.ofBitVec_toBitVec]
  rw [if_neg hfull, hbias]
  split_ifs with hzero hzero'
  · trivial
  · show (x.toNat : Int) - (1023 + 52) + 1 ≤ k
    rw [hzero]
    exact hk
  · show (x.toNat : Int) - (1023 + 52) ≤ k
    omega

/-- **Packing keeps a bound on the exponent** that the format has room for. -/
theorem moderate_pack {k : Int} (hlow : -1074 ≤ k) (hhigh : k ≤ 971) :
    ∀ {f : UnpackedFloat}, Moderate k f → Moderate k (pack f).unpack
  | .zero _, _ => moderate_components (by decide) hlow (by simp; omega)
  | .finite s m e hm, h => by
    have h : e ≤ k := h
    rw [unpack_pack]
    unfold UnpackedFloat.pack
    dsimp only
    have hbiased : (BitVec.ofNat 11 (e + 1023 + 52).toNat).toNat =
        (e + 1023 + 52).toNat % 2 ^ 11 := BitVec.toNat_ofNat _ _
    split_ifs with hoverflow hnormal
    -- The exponent is too small for infinity to be packed.
    · have hoverflow : 2 ^ 11 ≤ (e + 1023 + 52).toNat + 1 := hoverflow
      omega
    · refine moderate_components ?_ hlow ?_
      · show (BitVec.ofNat 11 (e + 1023 + 52).toNat).toNat < 2047
        omega
      · show ((BitVec.ofNat 11 (e + 1023 + 52).toNat).toNat : Int) - 1075 ≤ k
        omega
    · exact moderate_components (by decide) hlow (by simp; omega)

/-! ### Rounding -/

/-- **Rounding raises the exponent** at most to where the leading digit of the mantissa is in its
place, and one further. -/
theorem moderate_roundWithAccuracy {s : Sign} {m : Nat} {e k : Int} (acc : Accuracy)
    (hlow : -1074 < k) (he : e < k) (ht : totalExponent m e < k + 53) :
    Moderate k (roundWithAccuracy .binary64 s m e acc) := by
  unfold roundWithAccuracy shiftToTargetExponent shiftToExponent
  dsimp only
  split_ifs
  · trivial
  simp only [Moderate, targetExponent_eq]
  generalize hk : (max (totalExponent m e - 53) (-1074) - e).toNat = j
  have hfirst : m / 2 ^ j < 2 ^ 53 := shifted_lt (e := e) (by omega)
  generalize hr : ExtendedMantissa.roundedMantissa _ = r
  have hrle : r ≤ 2 ^ 53 := by
    have hle := roundedMantissa_le (ExtendedMantissa.ofMantissaAndAccuracy m acc >>> j)
    rw [mantissa_shiftRight, mantissa_of_accuracy, hr] at hle
    omega
  have hlog : r.log2 ≤ 53 := by
    by_cases hzero : r = 0
    · simp [hzero]
    · exact Nat.lt_succ_iff.mp ((Nat.log2_lt hzero).mpr (by omega))
  unfold totalExponent
  omega

theorem moderate_round {s : Sign} {m : Nat} {e k : Int} (hm : m ≠ 0) (hlow : -1074 < k)
    (ht : totalExponent m e < k + 53) : Moderate k (round .binary64 s m e) := by
  unfold UnpackedFloat.round decreaseExponent
  dsimp only
  refine moderate_roundWithAccuracy _ hlow ?_ ?_
  · rw [targetExponent_eq]
    omega
  · rwa [totalExponent_shiftLeft hm]

/-! ### Products -/

theorem totalExponent_le {m k : Nat} {e : Int} (hm : m ≠ 0) (hk : m < 2 ^ k) :
    totalExponent m e ≤ k + e := by
  have hlog := (Nat.log2_lt hm).mpr hk
  unfold totalExponent
  omega

theorem moderate_mul {a b : Float} {j k : Int} (ha : Moderate j a.toModel.unpack)
    (hb : Moderate k b.toModel.unpack) (hlow : -1127 ≤ j + k) (hhigh : j + k ≤ 917) :
    Moderate (j + k + 54) (a * b).toModel.unpack := by
  refine moderate_pack (by omega) (by omega) ?_
  rcases ha.zero_or_finite with ⟨s, hf⟩ | ⟨s, m, e, hm, hf, he⟩
  · rw [hf]
    rcases hb.zero_or_finite with ⟨t, hg⟩ | ⟨t, n, i, hn, hg, -⟩ <;> rw [hg] <;> trivial
  · rcases hb.zero_or_finite with ⟨t, hg⟩ | ⟨t, n, i, hn, hg, hi⟩
    · rw [hf, hg]
      trivial
    · have hmn : m * n < 2 ^ 106 :=
        calc m * n < 2 ^ 53 * 2 ^ 53 := Nat.mul_lt_mul'' (mantissa_lt hf) (mantissa_lt hg)
          _ = 2 ^ 106 := by norm_num
      have ht := totalExponent_le (e := e + i) (Nat.mul_pos hm hn).ne' hmn
      rw [hf, hg]
      show Moderate _ (roundWithAccuracy .binary64 (s * t) (m * n) (e + i) .exact)
      exact moderate_roundWithAccuracy .exact (by omega) (by omega) (by omega)

/-! ### Integers -/

theorem moderate_toFloat (n : UInt64) : Moderate 12 n.toFloat.toModel.unpack := by
  refine moderate_pack (by decide) (by decide) ?_
  show Moderate 12 (normalize .binary64 (n.toNat : Int) 0 .positive)
  unfold UnpackedFloat.normalize
  split
  · next h =>
    have hneg : (n.toNat : Int) < 0 := compare_lt_iff_lt.mp h
    omega
  · trivial
  · next h =>
    have hpos : 0 < (n.toNat : Int) := compare_gt_iff_gt.mp h
    have ht := totalExponent_le (e := 0) (by omega) n.toNat_lt
    refine moderate_round (by omega) (by decide) ?_
    rw [Int.toNat_natCast]
    omega

theorem moderate_ofScientific {n : Nat} (hn : n < 2 ^ 64) :
    Moderate 14 (UnpackedFloat.ofScientific .binary64 n 0) := by
  have hbits : Format.binary64.mantissaBits = 53 := rfl
  unfold UnpackedFloat.ofScientific
  by_cases hzero : n = 0
  · rw [dif_pos hzero]
    trivial
  · have hlow : ¬ (0 : Int) < -((2 ^ Format.binary64.exponentBits : Int) + n.log2) := by
      have : (0 : Int) < 2 ^ Format.binary64.exponentBits := by decide
      omega
    rw [dif_neg hzero, if_neg (by decide), if_neg hlow, if_pos (le_refl 0), UnpackedFloat.mul,
      Int.toNat_zero, Nat.pow_zero, Nat.mul_one, Nat.shiftLeft_eq, hbits]
    have hpos : n * 2 ^ 53 ≠ 0 := by omega
    have hlt : n * 2 ^ 53 < 2 ^ 117 := by omega
    have ht := totalExponent_le (e := -(53 : Nat) + 0) hpos hlt
    exact moderate_roundWithAccuracy .exact (by decide) (by decide) (by omega)

theorem moderate_ofNat {n : Nat} (hn : n < 2 ^ 64) :
    Moderate 14 (Float.ofNat n).toModel.unpack := by
  show Moderate 14 (Float.ofScientific n false 0).toModel.unpack
  unfold Float.ofScientific
  dsimp only
  -- Up to the precision of a float the digits are converted and multiplied by one.
  split
  · have hone : Moderate (-52) (Float.exactlyRepresentablePowersOfTen[0]).toModel.unpack :=
      le_refl (-52 : Int)
    exact moderate_mul (moderate_toFloat n.toUInt64) hone (by decide) (by decide)
  · exact moderate_pack (by decide) (by decide) (moderate_ofScientific hn)

/-- **An integer of 64 bits is finite as a float.** -/
theorem isFinite_ofInt {n : Int} (hn : Number.InRange n) : (Float.ofInt n).isFinite = true := by
  obtain ⟨hlow, hhigh⟩ := hn
  have h : Moderate 14 (Float.ofInt n).toModel.unpack := by
    rcases n with n | n
    · refine moderate_ofNat ?_
      change (n : Int) < _ at hhigh
      omega
    · have hn : n + 1 < 2 ^ 64 := by
        rw [Int.negSucc_eq] at hlow
        omega
      exact moderate_pack (by decide) (by decide) (moderate_ofNat hn).neg
  exact h.isFinite

end Binary64

/-- The number of a JSON text is finite as a float. -/
theorem Number.isFinite_toFloat : ∀ n : Number, n.toFloat.isFinite = true
  | .integer _ inRange => Binary64.isFinite_ofInt inRange
  | .float _ finite => finite

end ShapeOverlay
