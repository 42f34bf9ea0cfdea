import ShapeOverlay.Value

/-! # Attribute values as JSON trees

What is written of a value is read as this value (`Value.ofJson?_toJson`). Reading sorts the entries
of objects, which leaves those alone that are sorted already (`ValueTree.sort_eq_self`) and only
reorders those whose keys differ (`ValueTree.sort_perm`). -/

namespace ShapeOverlay

namespace ValueTree

/-! ### Sorting entries -/

variable {es : List (String × ValueTree)}

theorem insert_perm {key : String} (t : ValueTree) (h : key ∉ es.map Prod.fst) :
    (insert key t es).Perm ((key, t) :: es) := by
  induction es with
  | nil => exact .refl _
  | cons e rest ih =>
    obtain ⟨k, u⟩ := e
    obtain ⟨hk, hrest⟩ : key ≠ k ∧ key ∉ rest.map Prod.fst := by simpa using h
    rw [insert]
    split
    · exact .refl _
    · rw [if_neg hk.symm]
      exact ((ih hrest).cons (k, u)).trans (.swap _ _ _)

theorem foldl_insert_perm (sorted : List (String × ValueTree))
    (h : ((sorted ++ es).map Prod.fst).Nodup) :
    (es.foldl (fun sorted (key, t) => insert key t sorted) sorted).Perm (sorted ++ es) := by
  induction es generalizing sorted with
  | nil => simp
  | cons e rest ih =>
    obtain ⟨key, t⟩ := e
    have hkey : key ∉ sorted.map Prod.fst := fun hmem => by
      rw [List.map_append, List.nodup_append] at h
      exact h.2.2 key hmem key (by simp) rfl
    have hstep : (insert key t sorted ++ rest).Perm (sorted ++ (key, t) :: rest) :=
      ((insert_perm t hkey).append_right rest).trans List.perm_middle.symm
    exact (ih _ ((hstep.map Prod.fst).nodup_iff.mpr h)).trans hstep

/-- Entries with distinct keys are only reordered. -/
theorem sort_perm (h : (es.map Prod.fst).Nodup) : (sort es).Perm es :=
  foldl_insert_perm [] h

theorem nodup_keys (h : (object es).Sorted) : (es.map Prod.fst).Nodup := by
  cases h with
  | object hkeys _ => exact List.pairwise_map.mpr (hkeys.imp fun hlt => String.ne_of_lt hlt)

/-- Sorted entries are left as they are. -/
theorem sort_eq_self (h : (object es).Sorted) : sort es = es := by
  have hnodup := nodup_keys h
  cases h with
  | object hkeys hvalues =>
    cases sorted_sort hvalues with
    | object hsort _ =>
      exact (sort_perm hnodup).eq_of_pairwise
        (fun _ _ _ _ hlt hgt => absurd hgt (String.lt_asymm hlt)) hsort hkeys

/-! ### Reading what has been written -/

theorem itemsToJson_eq (ts : List ValueTree) : itemsToJson ts = ts.map toJson := by
  induction ts with
  | nil => rfl
  | cons t ts ih => rw [itemsToJson, ih, List.map_cons]

theorem entriesToJson_eq (es : List (String × ValueTree)) :
    entriesToJson es = es.map fun e => (some e.1, e.2.toJson) := by
  induction es with
  | nil => rfl
  | cons e es ih => rw [entriesToJson, ih, List.map_cons]

mutual

/-- A sorted value is read from what is written of it. -/
theorem ofJson?_toJson : ∀ t : ValueTree, t.Sorted → ofJson? t.toJson = some t
  | .null, _ => rfl
  | .bool _, _ => rfl
  | .number _, _ => rfl
  | .string _, _ => rfl
  | .array items, .array h => by
    rw [toJson, ofJson?, ofItems?_itemsToJson items h, Option.map_some]
  | .object es, .object hkeys hvalues => by
    rw [toJson, ofJson?, ofMembers?_entriesToJson es hvalues, Option.map_some,
      sort_eq_self (.object hkeys hvalues)]

theorem ofItems?_itemsToJson : ∀ ts : List ValueTree, (∀ t ∈ ts, t.Sorted) →
    ofItems? (itemsToJson ts) = some ts
  | [], _ => rfl
  | t :: ts, h => by
    rw [itemsToJson, ofItems?, ofJson?_toJson t (h t List.mem_cons_self),
      ofItems?_itemsToJson ts fun u hu => h u (List.mem_cons_of_mem t hu)]
    rfl

theorem ofMembers?_entriesToJson : ∀ es : List (String × ValueTree), (∀ e ∈ es, e.2.Sorted) →
    ofMembers? (entriesToJson es) = some es
  | [], _ => rfl
  | (k, t) :: es, h => by
    rw [entriesToJson, ofMembers?, ofJson?_toJson t (h (k, t) List.mem_cons_self),
      ofMembers?_entriesToJson es fun e he => h e (List.mem_cons_of_mem (k, t) he)]
    rfl

end

end ValueTree

namespace Value

theorem eq_null_of_isNull {v : Value} (h : v.isNull = true) : v = null := by
  obtain ⟨tree, sorted⟩ := v
  cases tree with
  | null => rfl
  | _ => cases h

theorem ofJson?_eq_some_iff {j : Json} {v : Value} :
    ofJson? j = some v ↔ ValueTree.ofJson? j = some v.tree := by
  unfold ofJson?
  split <;> simp_all [Value.ext_iff]

/-- **What is written of a value is read as this value.** -/
theorem ofJson?_toJson (v : Value) : ofJson? v.toJson = some v :=
  ofJson?_eq_some_iff.mpr (ValueTree.ofJson?_toJson v.tree v.sorted)

end Value

end ShapeOverlay
