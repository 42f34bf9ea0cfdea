import ShapeOverlay.Proofs.Json.Value
import ShapeOverlay.Proofs.Scalar.Finite
import ShapeOverlay.Proofs.Value.Agreement

/-! # What is under the keys of an object

The entries of an object are sorted, so an object is determined by what is under each key
(`Value.eq_of_get?_eq`). Setting or erasing an entry changes what is under its key only
(`Value.get?_put`), so of two writes under one key the second decides (`Value.put_put`). A value is
determined by its text if it is a string, and agrees with the float that is read from it if it is a
number (`Value.string?_eq_some_iff`, `Value.agrees_ofFloat`). -/

namespace ShapeOverlay

/-! ### Sorted entries -/

namespace ValueTree

variable {es fs : List (String × ValueTree)} {key : String} {t : ValueTree}

theorem lookup_of_mem (hnodup : (es.map Prod.fst).Nodup) (h : (key, t) ∈ es) :
    lookup key es = some t := by
  induction es with
  | nil => exact absurd h List.not_mem_nil
  | cons e rest ih =>
    obtain ⟨k, u⟩ := e
    obtain ⟨hk, hrest⟩ := List.nodup_cons.1 hnodup
    rw [lookup]
    rcases List.mem_cons.1 h with heq | hmem
    · obtain ⟨rfl, rfl⟩ := Prod.mk.inj heq
      rw [if_pos rfl]
    · have hne : k ≠ key := fun heq => hk (heq ▸ List.mem_map.2 ⟨(key, t), hmem, rfl⟩)
      rw [if_neg hne]
      exact ih hrest hmem

theorem lookup_eq_some_iff (h : (object es).Sorted) : lookup key es = some t ↔ (key, t) ∈ es :=
  ⟨mem_of_lookup, lookup_of_mem (nodup_keys h)⟩

/-- **Sorted entries are determined by what is under each key.** -/
theorem eq_of_lookup_eq (hes : (object es).Sorted) (hfs : (object fs).Sorted)
    (h : ∀ key, lookup key es = lookup key fs) : es = fs := by
  have hmem : ∀ e, e ∈ es ↔ e ∈ fs := fun e => by
    rw [← lookup_eq_some_iff hes, h, lookup_eq_some_iff hfs]
  have hperm : es.Perm fs :=
    (List.perm_ext_iff_of_nodup (nodup_keys hes).of_map (nodup_keys hfs).of_map).2 hmem
  cases hes with
  | object hes _ =>
    cases hfs with
    | object hfs _ =>
      exact hperm.eq_of_pairwise (fun _ _ _ _ hlt hgt => absurd hgt (String.lt_asymm hlt)) hes hfs

end ValueTree

namespace Value

/-! ### Objects -/

/-- The value is an object. -/
def IsObject (v : Value) : Prop := v.tree = .object v.tree.entries

/-- **An object is determined by what is under each key.** -/
theorem eq_of_get?_eq {v w : Value} (hv : v.IsObject) (hw : w.IsObject)
    (h : ∀ key, v.get? key = w.get? key) : v = w := by
  have hentries : v.tree.entries = w.tree.entries := by
    refine ValueTree.eq_of_lookup_eq (ValueTree.sorted_entries v.sorted)
      (ValueTree.sorted_entries w.sorted) fun key => ?_
    rw [← tree_get?, ← tree_get?, h]
  exact Value.ext (hv.trans (hentries ▸ hw.symm))

theorem isObject_put (v : Value) (key : String) (new : Value) : (v.put key new).IsObject := by
  unfold put
  split <;> rfl

/-- A write under a key changes what is under this key and no other. -/
theorem get?_put (v : Value) (key key' : String) (new : Value) : (v.put key new).get? key' =
    if key = key' then (if new.isNull then none else some new) else v.get? key' := by
  unfold put
  split
  · exact get?_erase v key key'
  · exact get?_insert v key key' new

/-- **Of two writes under one key the second decides.** -/
theorem put_put (v : Value) (key : String) (first second : Value) :
    (v.put key first).put key second = v.put key second := by
  refine eq_of_get?_eq (isObject_put _ _ _) (isObject_put _ _ _) fun key' => ?_
  rw [get?_put, get?_put, get?_put]
  split <;> rfl

/-! ### Leaves -/

theorem string?_eq_some_iff {v : Value} {s : String} : v.string? = some s ↔ v = ofString s := by
  constructor
  · intro h
    obtain ⟨tree, sorted⟩ := v
    cases tree with
    | string s' =>
      obtain rfl : s' = s := Option.some.inj h
      rfl
    | _ => cases h
  · rintro rfl
    rfl

theorem isNull_of_float? {v : Value} {x : Float} (h : v.float? = some x) : v.isNull = false := by
  obtain ⟨tree, sorted⟩ := v
  cases tree with
  | number n => rfl
  | _ => cases h

theorem isFinite_of_float? {v : Value} {x : Float} (h : v.float? = some x) :
    x.isFinite = true := by
  obtain ⟨tree, sorted⟩ := v
  cases tree with
  | number n =>
    obtain rfl : n.toFloat = x := Option.some.inj h
    exact n.isFinite_toFloat
  | _ => cases h

theorem float?_ofFloat {x : Float} (h : x.isFinite = true) : (ofFloat x).float? = some x := by
  rw [ofFloat, Number.ofFloat?, dif_pos h]
  rfl

/-- **A number agrees with the float that is read from it.** -/
theorem agrees_ofFloat {v : Value} {x : Float} (h : v.float? = some x) :
    (ofFloat x).agrees v = true := by
  rw [agrees, float?_ofFloat (isFinite_of_float? h), h]
  exact Binary64.beq_self_of_isNumber (isNumber_of_float? h)

end Value

end ShapeOverlay
