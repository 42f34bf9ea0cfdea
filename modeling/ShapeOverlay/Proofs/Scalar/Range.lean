import ShapeOverlay.Proofs.Scalar.Binary64

/-! # Ranges of floating point numbers

Packing keeps the sign of a number and makes none of it that is not one (`hasSign_pack`). So the
operations keep numbers that are comparable with themselves, as long as they do not take infinity
from infinity or zero times infinity. A number of the unit range stays at or below one if a number
that is not negative is taken from it (`not_one_lt_sub`), which is the one law that has to look at
how a difference is rounded. -/

namespace ShapeOverlay.Binary64

open Float.Model UnpackedFloat

/-! ### Signs -/

/-- The unpacked float is a number with the sign. -/
def HasSign (s : Sign) : UnpackedFloat → Prop
  | .infinity t | .zero t | .finite t _ _ _ => t = s
  | .notANumber => False

theorem hasSign_or {f : UnpackedFloat} (h : f ≠ .notANumber) :
    HasSign .positive f ∨ HasSign .negative f := by
  rcases f with (_ | _) | _ | (_ | _) | ⟨_ | _, _, _, _⟩ <;> simp_all [HasSign]

theorem HasSign.ne {s : Sign} {f : UnpackedFloat} (h : HasSign s f) : f ≠ .notANumber := by
  rintro rfl
  exact h

/-! ### Packing -/

theorem hasSign_components {spec : Format} {s : Sign} {e m} (h : e = -1#_ → m = 0#_) :
    HasSign s (unpack spec (packComponents spec s e m)) := by
  unfold UnpackedFloat.unpack
  simp only [unpackMantissa_packComponents, unpackExponent_packComponents,
    unpackSign_packComponents, Sign.ofBitVec_toBitVec]
  split_ifs with h1 h2 h3 h4
  · rfl
  · exact h2 (h h1)
  · rfl
  · rfl
  · rfl

theorem unpack_pack (f : UnpackedFloat) :
    (pack f).unpack = UnpackedFloat.unpack .binary64 (UnpackedFloat.pack .binary64 f) := rfl

/-- **Packing keeps the sign of a number.** -/
theorem hasSign_pack {s : Sign} : ∀ {f : UnpackedFloat}, HasSign s f → HasSign s (pack f).unpack
  | .infinity _, rfl => hasSign_components fun _ => rfl
  | .zero _, rfl => hasSign_components fun _ => rfl
  | .finite _ m e _, rfl => by
    rw [unpack_pack]
    unfold UnpackedFloat.pack
    dsimp only
    split_ifs with h1 h2
    · exact hasSign_components fun _ => rfl
    · refine hasSign_components fun h => ?_
      have h := congrArg BitVec.toNat h
      simp at h
      omega
    · exact hasSign_components fun h => absurd h (by decide)

theorem pack_ne {f : UnpackedFloat} (h : f ≠ .notANumber) : (pack f).unpack ≠ .notANumber := by
  rcases hasSign_or h with h | h
  · exact (hasSign_pack h).ne
  · exact (hasSign_pack h).ne

/-- The unpacked float is not a negative number. -/
def IsNonneg (f : UnpackedFloat) : Prop :=
  f = .notANumber ∨ (∃ s, f = .zero s) ∨ HasSign .positive f

theorem isNonneg_pack {f : UnpackedFloat} (h : IsNonneg f) : IsNonneg (pack f).unpack := by
  rcases h with rfl | ⟨s, rfl⟩ | h
  · exact Or.inl rfl
  · refine Or.inr (Or.inl ⟨s, ?_⟩)
    cases s <;> rfl
  · exact Or.inr (Or.inr (hasSign_pack h))

/-! ### Rounding -/

theorem hasSign_roundWithAccuracy (spec : Format) (s : Sign) (m : Nat) (e : Int) (acc : Accuracy) :
    HasSign s (roundWithAccuracy spec s m e acc) := by
  unfold roundWithAccuracy
  dsimp only
  split_ifs <;> rfl

theorem hasSign_round (spec : Format) (s : Sign) (m : Nat) (e : Int) :
    HasSign s (round spec s m e) :=
  hasSign_roundWithAccuracy _ _ _ _ _

theorem normalize_ne (spec : Format) (m e : Int) (s : Sign) :
    normalize spec m e s ≠ .notANumber := by
  unfold UnpackedFloat.normalize
  split
  · exact (hasSign_round _ _ _ _).ne
  · exact HasSign.ne (s := s) rfl
  · exact (hasSign_round _ _ _ _).ne

/-! ### Numbers of at most one -/

/-- The rank of one. -/
def oneRank : ℤ ×ₗ ℤ ×ₗ ℤ := toLex (1, toLex (-52, 2 ^ 52))

theorem rank_finite_le_one {m : Nat} {e : Int} {hm : 0 < m} :
    rank (.finite .positive m e hm) ≤ oneRank ↔ e < -52 ∨ e = -52 ∧ m ≤ 2 ^ 52 := by
  simp only [rank, oneRank, Prod.Lex.toLex_le_toLex, lt_irrefl, false_or, true_and]
  norm_cast

theorem rank_nonpos_le_one {f : UnpackedFloat} (h : HasSign .negative f) : rank f ≤ oneRank := by
  rcases f with (_ | _) | _ | (_ | _) | ⟨_ | _, _, _, _⟩ <;>
    simp_all [HasSign, rank, oneRank, Prod.Lex.toLex_le_toLex]

/-- A mantissa of 53 bits with the leading one in its place. -/
theorem toNat_implicit (x : BitVec 52) : (1#1 ++ x).toNat = 2 ^ 52 + x.toNat := by
  rw [BitVec.toNat_append, ← Nat.shiftLeft_add_eq_or_of_lt x.isLt]
  rfl

/-- What components with a positive sign unpack to is at most one if the exponent is small. -/
theorem rank_components_le_one {x : BitVec 11} {y : BitVec 52}
    (h : x.toNat < 1023 ∨ x.toNat = 1023 ∧ y.toNat = 0) :
    rank (UnpackedFloat.unpack .binary64 (packComponents .binary64 .positive x y)) ≤ oneRank := by
  have hbias : Format.binary64.exponentBias = 1023 := by decide
  have hfull : x ≠ -1#11 := by
    rintro rfl
    have hx : (-1#11).toNat = 2047 := by decide
    omega
  unfold UnpackedFloat.unpack
  simp only [unpackMantissa_packComponents, unpackExponent_packComponents,
    unpackSign_packComponents, Sign.ofBitVec_toBitVec]
  rw [if_neg hfull]
  split_ifs with h3 h4
  · decide
  · rw [rank_finite_le_one, hbias, h3]
    left
    decide
  · rw [rank_finite_le_one, hbias]
    have hy := toNat_implicit y
    rcases h with h | ⟨h, hzero⟩
    · left
      show (x.toNat : Int) - (1023 + 52) < -52
      omega
    · right
      rw [hzero] at hy
      refine ⟨?_, hy.le⟩
      show (x.toNat : Int) - (1023 + 52) = -52
      omega

theorem rank_pack_le_one : ∀ {f : UnpackedFloat}, rank f ≤ oneRank →
    rank (pack f).unpack ≤ oneRank
  | .notANumber, _ => by decide
  | .infinity .negative, _ => rank_nonpos_le_one (hasSign_pack rfl)
  | .infinity .positive, h => absurd h (by decide)
  | .zero .negative, _ => rank_nonpos_le_one (hasSign_pack rfl)
  | .zero .positive, _ => by decide
  | .finite .negative _ _ _, _ => rank_nonpos_le_one (hasSign_pack rfl)
  | .finite .positive m e hm, h => by
    rw [rank_finite_le_one] at h
    rw [unpack_pack]
    unfold UnpackedFloat.pack
    dsimp only
    split_ifs with h1 h2
    · have h1 : 2 ^ 11 ≤ (e + 1023 + 52).toNat + 1 := h1
      omega
    · have h2 : m.log2 = 52 := Nat.succ.inj h2
      have hm2 := Nat.log2_self_le hm.ne'
      rw [h2] at hm2
      refine rank_components_le_one ?_
      have hx : (BitVec.ofNat 11 (e + 1023 + 52).toNat).toNat = (e + 1023 + 52).toNat % 2 ^ 11 :=
        BitVec.toNat_ofNat _ _
      have hy : (BitVec.ofNat 52 m).toNat = m % 2 ^ 52 := BitVec.toNat_ofNat _ _
      show (BitVec.ofNat 11 (e + 1023 + 52).toNat).toNat < 1023 ∨
        (BitVec.ofNat 11 (e + 1023 + 52).toNat).toNat = 1023 ∧ (BitVec.ofNat 52 m).toNat = 0
      rw [hx, hy]
      omega
    · exact rank_components_le_one (Or.inl (by decide))

/-- The mantissa of an unpacked number has at most 53 bits. -/
theorem mantissa_lt {f : Float.Model} {s : Sign} {m : Nat} {e : Int} {hm : 0 < m}
    (h : f.unpack = .finite s m e hm) : m < 2 ^ 53 := by
  unfold Float.Model.unpack UnpackedFloat.unpack at h
  dsimp only at h
  split_ifs at h
  · cases h
    have hlt := (@unpackMantissa .binary64 f.toBits.toBitVec).isLt
    show BitVec.toNat _ < 2 ^ 53
    omega
  · cases h
    exact BitVec.isLt _

theorem mantissa_shiftRight (k : Nat) (em : ExtendedMantissa) :
    (em >>> k).mantissa = em.mantissa / 2 ^ k := by
  show (Nat.repeat ExtendedMantissa.shiftRightOne k em).mantissa = _
  induction k with
  | zero => simp [Nat.repeat]
  | succ k ih =>
    rw [Nat.repeat, ExtendedMantissa.shiftRightOne, ih, Nat.div_div_eq_div_mul, pow_succ]

theorem mantissa_of_accuracy (m : Nat) (acc : Accuracy) :
    (ExtendedMantissa.ofMantissaAndAccuracy m acc).mantissa = m := by
  rcases acc with _ | _ | _ | _ <;> rfl

theorem roundedMantissa_le (em : ExtendedMantissa) : em.roundedMantissa ≤ em.mantissa + 1 := by
  unfold ExtendedMantissa.roundedMantissa Accuracy.roundToNearestEven
  split <;> omega

theorem targetExponent_eq (t : Int) : Format.binary64.targetExponent t = max (t - 53) (-1074) := rfl

/-- A mantissa shifted to its target exponent has at most 53 bits. -/
theorem shifted_lt {m : Nat} {e : Int} {k : Nat} (h : totalExponent m e - 53 ≤ e + k) :
    m / 2 ^ k < 2 ^ 53 := by
  unfold totalExponent at h
  rw [Nat.div_lt_iff_lt_mul (Nat.two_pow_pos k), ← pow_add]
  calc m < 2 ^ (m.log2 + 1) := Nat.lt_log2_self
    _ ≤ 2 ^ (53 + k) := Nat.pow_le_pow_right (by decide) (by omega)

/-- **What is below one is rounded to at most one.** -/
theorem rank_roundWithAccuracy_le_one {m : Nat} {e : Int} (acc : Accuracy)
    (ht : totalExponent m e ≤ 0) (he : e ≤ Format.binary64.targetExponent (totalExponent m e)) :
    rank (roundWithAccuracy .binary64 .positive m e acc) ≤ oneRank := by
  rw [targetExponent_eq] at he
  unfold roundWithAccuracy shiftToTargetExponent shiftToExponent
  dsimp only
  split_ifs
  · decide
  simp only [rank_finite_le_one, mantissa_shiftRight, mantissa_of_accuracy, targetExponent_eq]
  generalize hk : (max (totalExponent m e - 53) (-1074) - e).toNat = k
  have hfirst : m / 2 ^ k < 2 ^ 53 := shifted_lt (e := e) (by omega)
  generalize hr : ExtendedMantissa.roundedMantissa _ = r
  have hrle : r ≤ 2 ^ 53 := by
    have hle := roundedMantissa_le (ExtendedMantissa.ofMantissaAndAccuracy m acc >>> k)
    rw [mantissa_shiftRight, mantissa_of_accuracy, hr] at hle
    omega
  have hlog : r.log2 ≤ 53 := by
    by_cases hzero : r = 0
    · simp [hzero]
    · exact Nat.lt_succ_iff.mp ((Nat.log2_lt hzero).mpr (by omega))
  -- rounding up to `2 ^ 53` costs one more shift, and no more
  generalize hj : (max (totalExponent r (e + k) - 53) (-1074) - (e + k)).toNat = j
  have hj1 : j = 0 ∨ j = 1 := by
    unfold totalExponent at hj
    omega
  rcases hj1 with rfl | rfl <;> omega

theorem log2_shiftLeft {m : Nat} (hm : m ≠ 0) (k : Nat) : (m <<< k).log2 = m.log2 + k := by
  induction k with
  | zero => rfl
  | succ k ih =>
    have hne : m <<< k ≠ 0 := by simpa using hm
    rw [Nat.shiftLeft_succ, Nat.log2_two_mul hne, ih]
    omega

theorem totalExponent_shiftLeft {m : Nat} (hm : m ≠ 0) (e : Int) (k : Nat) :
    totalExponent (m <<< k) (e - k) = totalExponent m e := by
  unfold totalExponent
  rw [log2_shiftLeft hm]
  omega

theorem rank_round_le_one {m : Nat} {e : Int} (hm : m ≠ 0) (ht : totalExponent m e ≤ 0) :
    rank (round .binary64 .positive m e) ≤ oneRank := by
  unfold UnpackedFloat.round decreaseExponent
  dsimp only
  refine rank_roundWithAccuracy_le_one _ ?_ ?_
  · rwa [totalExponent_shiftLeft hm]
  · rw [totalExponent_shiftLeft hm]
    omega

/-- A number of at most one is at most `2 ^ k` in units of `2 ^ -k`. -/
theorem shiftLeft_le {m : Nat} {e : Int} {k : Nat} (hm : m < 2 ^ 53)
    (h : e < -52 ∨ e = -52 ∧ m ≤ 2 ^ 52) (hk : 0 ≤ e + k) : m <<< (e + k).toNat ≤ 2 ^ k := by
  rw [Nat.shiftLeft_eq]
  rcases h with h | ⟨he, hle⟩
  · calc m * 2 ^ (e + k).toNat ≤ 2 ^ 53 * 2 ^ (e + k).toNat := Nat.mul_le_mul_right _ hm.le
      _ = 2 ^ (53 + (e + k).toNat) := (pow_add _ _ _).symm
      _ ≤ 2 ^ k := Nat.pow_le_pow_right (by decide) (by omega)
  · calc m * 2 ^ (e + k).toNat ≤ 2 ^ 52 * 2 ^ (e + k).toNat := Nat.mul_le_mul_right _ hle
      _ = 2 ^ (52 + (e + k).toNat) := (pow_add _ _ _).symm
      _ ≤ 2 ^ k := Nat.pow_le_pow_right (by decide) (by omega)

theorem rank_normalize_le_one {m e : Int} {s : Sign} {k : Nat} (he : e = -k)
    (hm : m < ((2 ^ k : Nat) : Int)) : rank (normalize .binary64 m e s) ≤ oneRank := by
  unfold UnpackedFloat.normalize
  split
  · exact rank_nonpos_le_one (hasSign_round _ _ _ _)
  · cases s <;> decide
  · next hgt =>
    have hpos : 0 < m := compare_gt_iff_gt.mp hgt
    have hlt : m.toNat < 2 ^ k := (Int.toNat_lt' (Nat.two_pow_pos k)).mpr hm
    have hlog : m.toNat.log2 < k := (Nat.log2_lt (by omega)).mpr hlt
    refine rank_round_le_one (by omega) ?_
    unfold totalExponent
    omega

/-- **Taking a number that is not negative from one of at most one** leaves one of at most one. -/
theorem rank_sub_le_one {f g : UnpackedFloat} (hf : IsNonneg f) (h1 : rank f ≤ oneRank)
    (hm : ∀ s m e h, f = .finite s m e h → m < 2 ^ 53) (hg : IsNonneg g) :
    rank (.sub .binary64 f g) ≤ oneRank := by
  rcases f with (_ | _) | _ | s | ⟨_ | _, m, e, hpos⟩
  · simp [IsNonneg, HasSign] at hf
  · exact absurd h1 (by decide)
  · exact (by decide : rank .notANumber ≤ oneRank)
  · rcases g with (_ | _) | _ | t | ⟨_ | _, n, k, hn⟩
    · simp [IsNonneg, HasSign] at hg
    · exact rank_nonpos_le_one rfl
    · exact (by decide : rank .notANumber ≤ oneRank)
    · cases s <;> cases t <;> decide
    · simp [IsNonneg, HasSign] at hg
    · exact rank_nonpos_le_one rfl
  · simp [IsNonneg, HasSign] at hf
  · rcases g with (_ | _) | _ | t | ⟨_ | _, n, k, hn⟩
    · simp [IsNonneg, HasSign] at hg
    · exact rank_nonpos_le_one rfl
    · exact (by decide : rank .notANumber ≤ oneRank)
    · exact h1
    · simp [IsNonneg, HasSign] at hg
    · rw [rank_finite_le_one] at h1
      have hm := hm _ _ _ _ rfl
      have hneg : min e k ≤ -52 := by omega
      refine rank_normalize_le_one (k := (-min e k).toNat) (by omega) ?_
      have hle := shiftLeft_le (k := (-min e k).toNat) hm h1 (by omega)
      have he : (e + (-min e k).toNat).toNat = (e - min e k).toNat := by omega
      have hpos : 0 < n <<< (k - min e k).toNat := by
        rw [Nat.shiftLeft_eq]
        exact Nat.mul_pos hn (Nat.two_pow_pos _)
      rw [he] at hle
      show ((m <<< (e - min e k).toNat : Nat) : Int) - (n <<< (k - min e k).toNat : Nat) < _
      omega

/-! ### Operations on numbers -/

theorem unpack_zero : (0 : Float).toModel.unpack = .zero .positive := by rfl

theorem unpack_one : (1 : Float).toModel.unpack = .finite .positive (2 ^ 52) (-52) (by decide) := by
  rfl

theorem not_lt_zero_iff {a : Float} : ¬ a < 0 ↔ IsNonneg a.toModel.unpack := by
  rw [float_lt_iff, unpack_zero]
  rcases a.toModel.unpack with (_ | _) | _ | (_ | _) | ⟨_ | _, m, e, hm⟩ <;>
    simp [rank, IsNonneg, HasSign, Prod.Lex.toLex_lt_toLex]

/-- The float is comparable with itself. -/
def IsNumber (a : Float) : Prop := a.toModel.unpack ≠ .notANumber

theorem isNumber_eq : IsNumber = fun a => a.isNaN = false := by
  funext a
  have hisNaN : a.isNaN = a.toModel.unpack.isNaN := rfl
  rw [IsNumber, hisNaN, ← Bool.not_eq_true, isNaN_iff]

theorem isNumber_of_le {a b : Float} (h : a ≤ b) : IsNumber a ∧ IsNumber b :=
  ⟨(float_le_iff.mp h).1, (float_le_iff.mp h).2.1⟩

theorem le_self_of_isNumber {a : Float} (h : IsNumber a) : a ≤ a := float_le_iff.mpr ⟨h, h, le_rfl⟩

theorem isNaN_iff_not_le_self {a : Float} : a.isNaN = true ↔ ¬ a ≤ a := by
  have hself : IsNumber a ↔ a ≤ a := ⟨le_self_of_isNumber, fun h => (isNumber_of_le h).1⟩
  rw [← hself, isNumber_eq, Bool.not_eq_false]

/-- A number of the unit range is finite. -/
theorem isFinite_of_unit {a : Float} (h : IsNumber a) (h0 : ¬ a < 0) (h1 : ¬ 1 < a) :
    a.toModel.unpack.isFinite = true := by
  rw [float_lt_iff, unpack_one] at h1
  rw [not_lt_zero_iff] at h0
  unfold IsNumber at h
  revert h h0 h1
  rcases a.toModel.unpack with (_ | _) | _ | (_ | _) | ⟨_ | _, m, e, hm⟩ <;>
    simp [rank, IsNonneg, HasSign, UnpackedFloat.isFinite, Prod.Lex.toLex_lt_toLex]

theorem isNumber_add {a b : Float} (ha : a.toModel.unpack.isFinite = true) (hb : IsNumber b) :
    IsNumber (a + b) := by
  refine pack_ne ?_
  unfold IsNumber at hb
  revert ha hb
  rcases a.toModel.unpack with _ | _ | s | _ <;> rcases b.toModel.unpack with _ | _ | t | _ <;>
    simp [UnpackedFloat.add, UnpackedFloat.isFinite, normalize_ne]
  split_ifs <;> simp

/-- A difference is a number unless infinity is taken from infinity. -/
theorem isNumber_sub_of {a b : Float} (ha : IsNumber a) (hb : IsNumber b)
    (h : ∀ s, a.toModel.unpack = .infinity s → b.toModel.unpack ≠ .infinity s) :
    IsNumber (a - b) := by
  refine pack_ne ?_
  unfold IsNumber at ha hb
  revert ha hb h
  rcases a.toModel.unpack with s | _ | s | _ <;> rcases b.toModel.unpack with t | _ | t | _ <;>
    simp [UnpackedFloat.sub, normalize_ne]
  · cases s <;> cases t
    · exact fun h => absurd rfl h
    · exact fun _ => rfl
    · exact fun _ => rfl
    · exact fun h => absurd rfl h
  · split_ifs <;> simp

theorem isNumber_sub_left {a b : Float} (ha : a.toModel.unpack.isFinite = true)
    (hb : IsNumber b) : IsNumber (a - b) := by
  refine isNumber_sub_of (fun h => ?_) hb fun s h => ?_
  · rw [h] at ha
    cases ha
  · rw [h] at ha
    cases ha

theorem isNumber_sub_right {a b : Float} (ha : IsNumber a)
    (hb : b.toModel.unpack.isFinite = true) : IsNumber (a - b) := by
  refine isNumber_sub_of ha (fun h => ?_) fun s _ h => ?_
  · rw [h] at hb
    cases hb
  · rw [h] at hb
    cases hb

theorem not_one_lt_iff {a : Float} :
    ¬ 1 < a ↔ a.toModel.unpack = .notANumber ∨ rank a.toModel.unpack ≤ oneRank := by
  rw [float_lt_iff, unpack_one]
  have hone : rank (.finite .positive (2 ^ 52) (-52) (by decide)) = oneRank := rfl
  rw [hone, ← not_lt]
  tauto

theorem isNumber_sub {a b : Float} (ha : IsNumber a) (h0 : ¬ a < 0) (hb : IsNumber b)
    (h1 : ¬ 1 < b) : IsNumber (a - b) := by
  refine isNumber_sub_of ha hb fun s hs hs' => ?_
  cases s with
  | positive =>
    rw [not_one_lt_iff, hs'] at h1
    rcases h1 with h1 | h1
    · cases h1
    · exact absurd h1 (by decide)
  | negative =>
    rw [not_lt_zero_iff, hs] at h0
    simp [IsNonneg, HasSign] at h0

theorem isNumber_abs {a : Float} (h : IsNumber a) : IsNumber a.abs := by
  refine pack_ne ?_
  unfold IsNumber at h
  revert h
  cases a.toModel.unpack <;> simp [UnpackedFloat.abs]

theorem not_lt_abs (a : Float) : ¬ a.abs < 0 := by
  refine not_lt_zero_iff.mpr (isNonneg_pack ?_)
  cases a.toModel.unpack <;> simp [IsNonneg, UnpackedFloat.abs, HasSign]

/-- A size that is neither infinite nor negative nor zero. -/
theorem exists_finite_of_pos {w : Float} (hw : w.isFinite = true) (h : ¬ w ≤ 0) :
    ∃ m e hm, w.toModel.unpack = .finite .positive m e hm := by
  have hw : w.toModel.unpack.isFinite = true := hw
  rw [float_le_iff, unpack_zero] at h
  revert hw h
  rcases w.toModel.unpack with (_ | _) | _ | (_ | _) | ⟨_ | _, m, e, hm⟩ <;>
    simp [rank, UnpackedFloat.isFinite, Prod.Lex.toLex_le_toLex]
  exact hm

theorem isNumber_mul {a w : Float} (ha : IsNumber a) (hw : w.isFinite = true) (h : ¬ w ≤ 0) :
    IsNumber (a * w) := by
  obtain ⟨m, e, hm, hw⟩ := exists_finite_of_pos hw h
  refine pack_ne ?_
  unfold IsNumber at ha
  rw [hw]
  revert ha
  rcases a.toModel.unpack with _ | _ | _ | ⟨s, n, k, hn⟩ <;> simp [UnpackedFloat.mul]
  exact (hasSign_roundWithAccuracy _ _ _ _ _).ne

theorem isNumber_div {a w : Float} (ha : IsNumber a) (hw : w.isFinite = true) (h : ¬ w ≤ 0) :
    IsNumber (a / w) := by
  obtain ⟨m, e, hm, hw⟩ := exists_finite_of_pos hw h
  refine pack_ne ?_
  unfold IsNumber at ha
  rw [hw]
  revert ha
  rcases a.toModel.unpack with _ | _ | _ | ⟨s, n, k, hn⟩ <;> simp [UnpackedFloat.div]
  exact (hasSign_roundWithAccuracy _ _ _ _ _).ne

theorem not_lt_div {a w : Float} (ha : ¬ a < 0) (h : ¬ w ≤ 0) : ¬ a / w < 0 := by
  refine not_lt_zero_iff.mpr (isNonneg_pack ?_)
  rw [not_lt_zero_iff] at ha
  rw [float_le_iff, unpack_zero] at h
  revert ha h
  rcases a.toModel.unpack with (_ | _) | _ | s | ⟨_ | _, n, k, hn⟩ <;>
    rcases w.toModel.unpack with (_ | _) | _ | t | ⟨_ | _, m, e, hm⟩ <;>
    simp [UnpackedFloat.div, IsNonneg, HasSign, rank, Prod.Lex.toLex_le_toLex]
  · rfl
  · exact Or.inr (Or.inr (hasSign_roundWithAccuracy _ _ _ _ _))

/-- The square root of a positive sum of squares is positive. -/
theorem hasSign_hypotenuse (m : Nat) (e : Int) (n : Nat) (f : Int) :
    HasSign .positive (hypotenuse m e n f).toModel.unpack := by
  unfold hypotenuse
  dsimp only
  split_ifs
  · exact hasSign_pack (hasSign_roundWithAccuracy _ _ _ _ _)
  · exact hasSign_pack rfl

theorem not_lt_norm (a b : Float) : ¬ norm a b < 0 := by
  unfold norm
  split
  · decide
  · decide
  · decide
  · decide
  · exact not_lt_abs b
  · exact not_lt_abs a
  · exact not_lt_zero_iff.mpr (Or.inr (Or.inr (hasSign_hypotenuse _ _ _ _)))

theorem isNumber_norm {a b : Float} (ha : IsNumber a) (hb : IsNumber b) : IsNumber (norm a b) := by
  have hinfinity : IsNumber infinity :=
    pack_ne (by simp : UnpackedFloat.infinity .positive ≠ .notANumber)
  unfold norm
  split
  · exact hinfinity
  · exact hinfinity
  · exact absurd ‹a.toModel.unpack = .notANumber› ha
  · exact absurd ‹b.toModel.unpack = .notANumber› hb
  · exact isNumber_abs hb
  · exact isNumber_abs ha
  · exact (hasSign_hypotenuse _ _ _ _).ne

theorem not_one_lt_sub {a b : Float} (h0 : ¬ a < 0) (h1 : ¬ 1 < a) (hb : ¬ b < 0) :
    ¬ 1 < a - b := by
  rw [not_lt_zero_iff] at h0 hb
  rw [not_one_lt_iff] at h1 ⊢
  refine Or.inr (rank_pack_le_one (rank_sub_le_one h0 ?_ (fun _ _ _ _ h => mantissa_lt h) hb))
  rcases h1 with h1 | h1
  · rw [h1]
    decide
  · exact h1

/-! ### Domains -/

/-- All floats form a domain. -/
theorem domain_all : Scalar.Domain (fun _ : Float => True) fun _ => True where
  of_le _ := ⟨trivial, trivial⟩
  add _ _ := trivial
  sub _ _ := trivial
  sub_of_high _ _ := trivial
  low_sub ha hb := ⟨not_one_lt_sub ha.1 ha.2.1 hb.1, trivial⟩
  high_abs _ := ⟨not_lt_abs _, trivial⟩
  mul _ _ _ := trivial
  div _ _ _ := trivial
  high_div ha _ hw := ⟨not_lt_div ha.1 hw, trivial⟩
  high_norm _ _ := ⟨not_lt_norm _ _, trivial⟩

/-- **The floats that are numbers form a domain** on surfaces of a finite size. -/
theorem domain_numbers : Scalar.Domain IsNumber fun w => w.isFinite = true where
  of_le h := isNumber_of_le h
  add ha hb := isNumber_add (isFinite_of_unit ha.2.2 ha.1 ha.2.1) hb
  sub ha hb := isNumber_sub_right ha (isFinite_of_unit hb.2.2 hb.1 hb.2.1)
  sub_of_high ha hb := isNumber_sub ha.2 ha.1 hb.2 hb.1
  low_sub ha hb :=
    ⟨not_one_lt_sub ha.1 ha.2.1 hb.1, isNumber_sub_left (isFinite_of_unit ha.2.2 ha.1 ha.2.1) hb.2⟩
  high_abs ha := ⟨not_lt_abs _, isNumber_abs ha⟩
  mul ha hw h := isNumber_mul ha hw h
  div ha hw h := isNumber_div ha hw h
  high_div ha hw h := ⟨not_lt_div ha.1 h, isNumber_div ha.2 hw h⟩
  high_norm ha hb := ⟨not_lt_norm _ _, isNumber_norm ha hb⟩

end ShapeOverlay.Binary64
