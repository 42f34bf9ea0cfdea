import ShapeOverlay.Proofs.Scalar.Range
import ShapeOverlay.Value

/-! # Values agree with themselves

A float that is no number is not equal to itself. No such float is a `Number`: an integer is rounded
to a float that is one (`isNumber_ofInt`), and the other numbers are finite. So every tree has the
structure of itself (`ValueTree.same_self`), and every value agrees with itself
(`Value.agrees_self`). -/

namespace ShapeOverlay

/-! ### Integers as floats -/

namespace Binary64

open Float.Model UnpackedFloat

theorem beq_self_of_isNumber {a : Float} (h : IsNumber a) : (a == a) = true :=
  float_beq_iff.mpr ⟨h, h, rfl⟩

theorem isNumber_of_isFinite {a : Float} (h : a.isFinite = true) : IsNumber a := by
  have h : a.toModel.unpack.isFinite = true := h
  intro hne
  rw [hne] at h
  cases h

theorem isNumber_neg {a : Float} (h : IsNumber a) : IsNumber (-a) := by
  refine pack_ne ?_
  unfold IsNumber at h
  revert h
  cases a.toModel.unpack <;> simp [UnpackedFloat.neg]

theorem ofScientific_ne (m : Nat) (e : Int) :
    UnpackedFloat.ofScientific .binary64 m e ≠ .notANumber := by
  unfold UnpackedFloat.ofScientific
  split_ifs
  · exact HasSign.ne (s := .positive) rfl
  · exact HasSign.ne (s := .positive) rfl
  · exact HasSign.ne (s := .positive) rfl
  · exact (hasSign_roundWithAccuracy _ _ _ _ _).ne
  · exact (hasSign_roundWithAccuracy _ _ _ _ _).ne

theorem isNumber_ofNat (n : Nat) : IsNumber (Float.ofNat n) := by
  show IsNumber (Float.ofScientific n false 0)
  unfold Float.ofScientific
  dsimp only
  -- Up to the precision of a float the digits are converted and multiplied by one.
  split
  · have hdigits : IsNumber n.toUInt64.toFloat := pack_ne (normalize_ne _ _ _ _)
    have hone : Float.exactlyRepresentablePowersOfTen[0].isFinite = true ∧
        ¬ Float.exactlyRepresentablePowersOfTen[0] ≤ 0 := by decide
    exact isNumber_mul hdigits hone.1 hone.2
  · exact pack_ne (ofScientific_ne n 0)

theorem isNumber_ofInt : ∀ n : Int, IsNumber (Float.ofInt n)
  | .ofNat n => isNumber_ofNat n
  | .negSucc n => isNumber_neg (isNumber_ofNat (n + 1))

end Binary64

open Binary64

/-! ### Trees -/

theorem Number.isNumber_toFloat : ∀ n : Number, IsNumber n.toFloat
  | .integer n _ => isNumber_ofInt n
  | .float _ finite => isNumber_of_isFinite finite

theorem Number.beq_self : ∀ n : Number, (n == n) = true
  | .integer n _ => beq_self_eq_true n
  | .float _ finite => beq_self_of_isNumber (isNumber_of_isFinite finite)

namespace ValueTree

mutual

/-- **A tree has the structure of itself**, and equal leaves. -/
theorem same_self : ∀ t : ValueTree, t.same t = true
  | .null => rfl
  | .bool b => beq_self_eq_true b
  | .number n => n.beq_self
  | .string s => beq_self_eq_true s
  | .array items => sameItems_self items
  | .object entries => sameEntries_self entries

theorem sameItems_self : ∀ ts : List ValueTree, sameItems ts ts = true
  | [] => rfl
  | t :: ts => by rw [sameItems, same_self t, sameItems_self ts, Bool.and_self]

theorem sameEntries_self : ∀ es : List (String × ValueTree), sameEntries es es = true
  | [] => rfl
  | (k, t) :: es => by
    rw [sameEntries, beq_self_eq_true k, same_self t, sameEntries_self es, Bool.and_self,
      Bool.and_self]

end

end ValueTree

/-! ### Values -/

namespace Value

theorem isNumber_of_float? {v : Value} {x : Float} (h : v.float? = some x) : IsNumber x := by
  unfold float? at h
  split at h
  · next n _ =>
    obtain rfl : n.toFloat = x := Option.some.inj h
    exact n.isNumber_toFloat
  · cases h

/-- **A value agrees with itself**, whether it is compared as a float or by its structure. -/
theorem agrees_self (v : Value) : v.agrees v = true := by
  unfold agrees
  cases hfloat : v.float? with
  | none => exact v.tree.same_self
  | some x => exact beq_self_of_isNumber (isNumber_of_float? hfloat)

end Value

end ShapeOverlay
