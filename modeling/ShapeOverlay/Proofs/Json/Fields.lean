import Mathlib.Tactic.SplitIfs
import ShapeOverlay.Proofs.Json.Value

/-! # The fields of an object

An object whose keys all denote texts is given by its fields (`Json.ofFields`). What is read of a
field does not depend on the order of the fields (`Json.field?_perm`, `Json.fieldOr?_perm`), and
neither does whether the object denotes a value (`Value.isSome_ofJson?_ofFields`). If the fields
have distinct keys and hold what is written of values (`Json.IsValue`), then the object denotes a
value, and what is written of that one has the same fields (`Value.exists_ofJson?_ofFields`). -/

namespace ShapeOverlay

namespace Json

/-- The object with the given fields. -/
def ofFields (fields : List (String × Json)) : Json := object (fields.map fun f => (some f.1, f.2))

variable {fields others : List (String × Json)}

theorem entries?_ofFields (fields : List (String × Json)) :
    (ofFields fields).entries? = some fields := by
  induction fields with
  | nil => rfl
  | cons f fields ih =>
    simp only [ofFields, entries?] at ih
    simp [ofFields, entries?, List.mapM_cons, ih]

/-! ### The order of the fields -/

theorem valuesAt_perm (h : fields.Perm others) (key : String) :
    (valuesAt fields key).Perm (valuesAt others key) := (h.filter _).map _

/-- The values under a key are the same, in whatever order the fields stand, or there are two of
them at least. -/
theorem valuesAt_cases (h : fields.Perm others) (key : String) :
    valuesAt fields key = valuesAt others key ∨
      (∃ v w rest, valuesAt fields key = v :: w :: rest) ∧
        ∃ v w rest, valuesAt others key = v :: w :: rest := by
  have hperm := valuesAt_perm h key
  rcases hvalues : valuesAt fields key with _ | ⟨v, _ | ⟨w, rest⟩⟩
  · rw [hvalues] at hperm
    exact Or.inl hperm.nil_eq
  · rw [hvalues] at hperm
    exact Or.inl (List.singleton_perm.mp hperm)
  · refine Or.inr ⟨⟨v, w, rest, rfl⟩, ?_⟩
    -- the two may differ in order here, but neither reader takes more than one
    have hlen := hperm.length_eq
    rw [hvalues] at hlen
    match valuesAt others key, hlen with
    | v' :: w' :: rest', _ => exact ⟨v', w', rest', rfl⟩

theorem field?_perm {β : Type} (h : fields.Perm others) (key : String) (read : Json → Option β) :
    field? fields key read = field? others key read := by
  unfold field?
  rcases valuesAt_cases h key with heq | ⟨⟨v, w, rest, hv⟩, v', w', rest', hv'⟩
  · rw [heq]
  · rw [hv, hv']

theorem fieldOr?_perm {β : Type} (h : fields.Perm others) (key : String) (default : β)
    (read : Json → Option β) :
    fieldOr? fields key default read = fieldOr? others key default read := by
  unfold fieldOr?
  rcases valuesAt_cases h key with heq | ⟨⟨v, w, rest, hv⟩, v', w', rest', hv'⟩
  · rw [heq]
  · rw [hv, hv']

/-! ### Fields with distinct keys -/

theorem valuesAt_of_notMem {key : String} (h : key ∉ fields.map Prod.fst) :
    valuesAt fields key = [] := by
  rw [valuesAt, List.map_eq_nil_iff, List.filter_eq_nil_iff]
  intro f hf heq
  exact h (List.mem_map.mpr ⟨f, hf, beq_iff_eq.mp heq⟩)

theorem valuesAt_of_mem {key : String} {j : Json} (hkeys : (fields.map Prod.fst).Nodup)
    (h : (key, j) ∈ fields) : valuesAt fields key = [j] := by
  obtain ⟨before, after, rfl⟩ := List.append_of_mem h
  rw [List.map_append, List.map_cons, List.nodup_append, List.nodup_cons] at hkeys
  obtain ⟨-, ⟨hafter, -⟩, hbefore⟩ := hkeys
  have hbefore' : key ∉ before.map Prod.fst := fun hmem =>
    hbefore key hmem key List.mem_cons_self rfl
  have hnone := valuesAt_of_notMem hbefore'
  have hnone' := valuesAt_of_notMem hafter
  simp only [valuesAt] at hnone hnone' ⊢
  simp [hnone, hnone']

theorem field?_of_mem {β : Type} {key : String} {j : Json} (hkeys : (fields.map Prod.fst).Nodup)
    (h : (key, j) ∈ fields) (read : Json → Option β) : field? fields key read = read j := by
  rw [field?, valuesAt_of_mem hkeys h]

theorem fieldOr?_of_mem {β : Type} {key : String} {j : Json} (hkeys : (fields.map Prod.fst).Nodup)
    (h : (key, j) ∈ fields) (default : β) (read : Json → Option β) :
    fieldOr? fields key default read = read j := by
  rw [fieldOr?, valuesAt_of_mem hkeys h]

theorem fieldOr?_of_notMem {β : Type} {key : String} (h : key ∉ fields.map Prod.fst) (default : β)
    (read : Json → Option β) : fieldOr? fields key default read = some default := by
  rw [fieldOr?, valuesAt_of_notMem h]

/-! ### Fields that may be missing -/

/-- The value is what is given under a key, or the default if nothing is. -/
def Holds {β : Type} (fields : List (String × Json)) (key : String) (means : Json → β → Prop)
    (default value : β) : Prop :=
  (∀ j, (key, j) ∈ fields → means j value) ∧ (key ∉ fields.map Prod.fst → value = default)

theorem mem_valuesAt {key : String} {j : Json} : j ∈ valuesAt fields key ↔ (key, j) ∈ fields := by
  simp [valuesAt]

theorem length_valuesAt (fields : List (String × Json)) (key : String) :
    (valuesAt fields key).length = (fields.map Prod.fst).count key := by
  rw [valuesAt, List.length_map, List.count_eq_countP, List.countP_map,
    List.countP_eq_length_filter]
  rfl

/-- Under a key that is there stands one value or more. -/
theorem mem_keys_iff {key : String} : key ∈ fields.map Prod.fst ↔ valuesAt fields key ≠ [] := by
  rw [← List.count_pos_iff, ← length_valuesAt, List.length_pos_iff]

variable {β : Type} {key : String} {default value : β} {read : Json → Option β}
  {means : Json → β → Prop}

/-- **What is read of a field that may be missing**: the key stands once at most, and the value is
what is given under it, or the default. -/
theorem fieldOr?_eq_some_iff (hread : ∀ j v, read j = some v ↔ means j v) :
    fieldOr? fields key default read = some value ↔
      (fields.map Prod.fst).count key ≤ 1 ∧ Holds fields key means default value := by
  rw [fieldOr?, Holds, mem_keys_iff, ← length_valuesAt]
  simp only [← mem_valuesAt]
  match valuesAt fields key with
  | [] => simp [eq_comm]
  | [j] => simp [hread]
  | _ :: _ :: _ => simp

/-- A field that may be missing is read just if its key stands once at most, with a value that means
something. -/
theorem exists_fieldOr?_iff (hread : ∀ j v, read j = some v ↔ means j v) :
    (∃ value, fieldOr? fields key default read = some value) ↔
      (fields.map Prod.fst).count key ≤ 1 ∧ ∀ j, (key, j) ∈ fields → ∃ value, means j value := by
  rw [fieldOr?, ← length_valuesAt]
  simp only [← mem_valuesAt]
  match valuesAt fields key with
  | [] => simp
  | [j] => simp [hread]
  | _ :: _ :: _ => simp

/-- Fields of other keys do not matter. -/
theorem fieldOr?_filter (p : String → Bool) (hp : p key = true) (default : β)
    (read : Json → Option β) :
    fieldOr? (fields.filter fun f => p f.1) key default read =
      fieldOr? fields key default read := by
  have hvalues : valuesAt (fields.filter fun f => p f.1) key = valuesAt fields key := by
    rw [valuesAt, valuesAt, List.filter_filter]
    refine congrArg (List.map Prod.snd) (List.filter_congr fun f _ => ?_)
    by_cases hkey : f.1 = key
    · simp [hkey, hp]
    · simp [hkey]
  rw [fieldOr?, hvalues, fieldOr?]

/-! ### Numbers -/

/-- A number is read from what is written of it just if it is finite. -/
theorem float?_ofFloat (x : Float) : (ofFloat x).float? = if x.isFinite then some x else none := by
  unfold ofFloat Number.ofFloat?
  split_ifs <;> rfl

/-! ### What is written of values -/

/-- The tree is written of a value. -/
def IsValue (j : Json) : Prop := ∃ v : Value, v.toJson = j

theorem isValue_toJson (v : Value) : v.toJson.IsValue := ⟨v, rfl⟩

theorem isValue_ofString (s : String) : (ofString s).IsValue := ⟨.ofString s, rfl⟩

theorem isValue_ofFloat (x : Float) : (ofFloat x).IsValue := by
  refine ⟨.ofFloat x, ?_⟩
  unfold ofFloat Value.ofFloat
  cases Number.ofFloat? x <;> rfl

/-- Sorted values for trees that are written of values. -/
theorem exists_items {items : List Json} (h : ∀ j ∈ items, j.IsValue) :
    ∃ ts : List ValueTree, (∀ t ∈ ts, t.Sorted) ∧ items = ts.map ValueTree.toJson := by
  induction items with
  | nil => exact ⟨[], by simp, rfl⟩
  | cons j items ih =>
    obtain ⟨⟨v, rfl⟩, hitems⟩ := List.forall_mem_cons.mp h
    obtain ⟨ts, hts, rfl⟩ := ih hitems
    exact ⟨v.tree :: ts, List.forall_mem_cons.mpr ⟨v.sorted, hts⟩, rfl⟩

/-- Entries with sorted values for fields that are written of values. -/
theorem exists_entries (h : ∀ f ∈ fields, f.2.IsValue) : ∃ es : List (String × ValueTree),
    (∀ e ∈ es, e.2.Sorted) ∧ fields = es.map fun e => (e.1, e.2.toJson) := by
  induction fields with
  | nil => exact ⟨[], by simp, rfl⟩
  | cons f fields ih =>
    obtain ⟨key, j⟩ := f
    obtain ⟨⟨v, rfl⟩, hfields⟩ := List.forall_mem_cons.mp h
    obtain ⟨es, hes, rfl⟩ := ih hfields
    exact ⟨(key, v.tree) :: es, List.forall_mem_cons.mpr ⟨v.sorted, hes⟩, rfl⟩

theorem isValue_array {items : List Json} (h : ∀ j ∈ items, j.IsValue) : (array items).IsValue := by
  obtain ⟨ts, hts, rfl⟩ := exists_items h
  exact ⟨⟨.array ts, .array hts⟩, congrArg array (ValueTree.itemsToJson_eq ts)⟩

theorem object_entriesToJson (es : List (String × ValueTree)) :
    (ValueTree.object es).toJson = ofFields (es.map fun e => (e.1, e.2.toJson)) := by
  rw [ValueTree.toJson, ValueTree.entriesToJson_eq, ofFields, List.map_map]
  rfl

theorem isValue_ofFields (hkeys : fields.Pairwise fun f g => f.1 < g.1)
    (h : ∀ f ∈ fields, f.2.IsValue) : (ofFields fields).IsValue := by
  obtain ⟨es, hes, rfl⟩ := exists_entries h
  rw [List.pairwise_map] at hkeys
  exact ⟨⟨.object es, .object hkeys hes⟩, object_entriesToJson es⟩

end Json

namespace Value

variable {fields : List (String × Json)}

theorem isSome_ofJson? (j : Json) : (ofJson? j).isSome = (ValueTree.ofJson? j).isSome := by
  unfold ofJson?
  split <;> simp_all

theorem isSome_ofMembers? (fields : List (String × Json)) :
    (ValueTree.ofMembers? (fields.map fun f => (some f.1, f.2))).isSome =
      fields.all fun f => (ofJson? f.2).isSome := by
  induction fields with
  | nil => rfl
  | cons f fields ih =>
    rw [List.all_cons, ← ih, isSome_ofJson?, List.map_cons, ValueTree.ofMembers?]
    cases ValueTree.ofJson? f.2 with
    | none => rfl
    | some t => cases ValueTree.ofMembers? (fields.map fun f => (some f.1, f.2)) <;> rfl

/-- An object denotes a value just if everything in its fields does. -/
theorem isSome_ofJson?_ofFields (fields : List (String × Json)) :
    (ofJson? (.ofFields fields)).isSome = fields.all fun f => (ofJson? f.2).isSome := by
  rw [isSome_ofJson?, Json.ofFields, ValueTree.ofJson?, Option.isSome_map, isSome_ofMembers?]

/-- **An object with distinct keys is written again with the same fields.** -/
theorem exists_ofJson?_ofFields (hkeys : (fields.map Prod.fst).Nodup)
    (h : ∀ f ∈ fields, f.2.IsValue) : ∃ v others, ofJson? (.ofFields fields) = some v ∧
      v.toJson = .ofFields others ∧ others.Perm fields := by
  obtain ⟨es, hes, rfl⟩ := Json.exists_entries h
  have hread : ValueTree.ofJson? (.ofFields (es.map fun e => (e.1, e.2.toJson))) =
      some (.object (ValueTree.sort es)) := by
    rw [← Json.object_entriesToJson, ValueTree.toJson, ValueTree.ofJson?,
      ValueTree.ofMembers?_entriesToJson es hes, Option.map_some]
  refine ⟨⟨.object (ValueTree.sort es), ValueTree.sorted_sort hes⟩, _,
    ofJson?_eq_some_iff.mpr hread, Json.object_entriesToJson _, List.Perm.map _ ?_⟩
  rw [List.map_map] at hkeys
  exact ValueTree.sort_perm hkeys

end Value

end ShapeOverlay
