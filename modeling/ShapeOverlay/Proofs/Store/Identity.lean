import Mathlib.Data.List.Nodup
import Mathlib.Tactic.SplitIfs
import ShapeOverlay.Editor.Scene

/-! # Shapes and their identities

A shape is looked up by its identity, and the first one that has it is found (`Store.IsFirst`). In a
list whose identities are pairwise distinct (`Store.DistinctIds`) that is the only one, so that a
shape and its identity determine each other (`indexOf?_of_get?`, `DistinctIds.eq_of_id`). Looking up
depends on the list of identities alone (`indexOf?_congr`), and so does not notice that a shape in its
place gets another geometry. -/

namespace ShapeOverlay

namespace Store

variable {α : Type} {s t : Store α} {i : Nat} {id : Identifier} {shape : Shape α}

/-! ### Looking up -/

theorem indexOf?_congr (h : s.shapes.map (·.id) = t.shapes.map (·.id)) (id : Identifier) :
    s.indexOf? id = t.indexOf? id := by
  have hmap : ∀ u : Store α, u.indexOf? id = (u.shapes.map (·.id)).findIdx? (· == id) := by
    intro u
    rw [List.findIdx?_map]
    rfl
  rw [hmap, hmap, h]

theorem get?_of_indexOf? (h : s.indexOf? id = some i) :
    ∃ shape, s.get? i = some shape ∧ shape.id = id := by
  obtain ⟨hlt, hid, -⟩ := List.findIdx?_eq_some_iff_getElem.mp h
  exact ⟨s.shapes[i], List.getElem?_eq_getElem hlt, eq_of_beq hid⟩

theorem mem_of_get? (h : s.get? i = some shape) : shape ∈ s.shapes := List.mem_of_getElem? h

theorem exists_get?_of_mem (h : shape ∈ s.shapes) : ∃ i, s.get? i = some shape :=
  List.mem_iff_getElem?.mp h

theorem isSome_indexOf?_iff :
    (s.indexOf? id).isSome = true ↔ ∃ shape ∈ s.shapes, shape.id = id := by
  rw [indexOf?, List.findIdx?_isSome, List.any_eq_true]
  simp only [beq_iff_eq]

/-- What is looked up is the first shape of the list with the identity. -/
theorem lookup_eq_find? (s : Store α) (id : Identifier) :
    s.lookup id = s.shapes.find? (·.id == id) := by
  obtain ⟨shapes⟩ := s
  show (shapes.findIdx? (·.id == id)).bind (shapes[·]?) = _
  induction shapes with
  | nil => rfl
  | cons shape shapes ih =>
    rw [List.findIdx?_cons, List.find?_cons, ← ih]
    cases shape.id == id with
    | true => rfl
    | false =>
      -- a place behind the first shape is one higher, and is read one place further on
      exact Option.bind_map

/-- No shape before a place has the same identity as the shape there. -/
def IsFirst (s : Store α) (i : Nat) (shape : Shape α) : Prop :=
  ∀ j < i, ∀ other, s.get? j = some other → other.id ≠ shape.id

theorem isFirst_iff (hi : s.get? i = some shape) :
    s.IsFirst i shape ↔ s.indexOf? shape.id = some i := by
  obtain ⟨hlt, hshape⟩ := List.getElem?_eq_some_iff.mp hi
  constructor
  · intro h
    refine List.findIdx?_eq_some_iff_getElem.mpr ⟨hlt, by rw [hshape, beq_self_eq_true], ?_⟩
    intro j hj hid
    exact h j hj _ (List.getElem?_eq_getElem _) (eq_of_beq hid)
  · intro h j hj other hother hid
    obtain ⟨_, _, hbefore⟩ := List.findIdx?_eq_some_iff_getElem.mp h
    obtain ⟨_, rfl⟩ := List.getElem?_eq_some_iff.mp hother
    exact hbefore j hj (beq_iff_eq.mpr hid)

/-! ### Distinct identities -/

/-- No two shapes of the list have the same identity. -/
def DistinctIds (s : Store α) : Prop := (s.shapes.map (·.id)).Nodup

instance (s : Store α) : Decidable s.DistinctIds :=
  inferInstanceAs (Decidable (s.shapes.map (·.id)).Nodup)

theorem DistinctIds.eq_of_id (h : s.DistinctIds) {a b : Shape α} (ha : a ∈ s.shapes)
    (hb : b ∈ s.shapes) (hid : a.id = b.id) : a = b :=
  List.inj_on_of_nodup_map h ha hb hid

theorem indexOf?_of_get? (h : s.DistinctIds) (hi : s.get? i = some shape) :
    s.indexOf? shape.id = some i := by
  obtain ⟨hlt, rfl⟩ := List.getElem?_eq_some_iff.mp hi
  refine List.findIdx?_eq_some_iff_getElem.mpr ⟨hlt, beq_self_eq_true _, fun j hj hid => ?_⟩
  have hj' : j < (s.shapes.map (·.id)).length := by
    rw [List.length_map]
    omega
  have hi' : i < (s.shapes.map (·.id)).length := by rwa [List.length_map]
  have hid : (s.shapes.map (·.id))[j] = (s.shapes.map (·.id))[i] := by
    rw [List.getElem_map, List.getElem_map]
    exact eq_of_beq hid
  have hji := (List.Nodup.getElem_inj_iff h).mp hid
  omega

/-! ### Writing a shape in its place -/

theorem get?_modify (f : Shape α → Shape α) (i j : Nat) :
    (s.modify i f).get? j = (s.get? j).map fun shape => if i = j then f shape else shape := by
  rw [get?, modify, List.getElem?_modify]
  rfl

theorem set_of_get? (hi : s.get? i = some shape) : s.shapes.set i shape = s.shapes := by
  obtain ⟨hlt, rfl⟩ := List.getElem?_eq_some_iff.mp hi
  exact List.set_getElem_self hlt

theorem modify_of_get? (hi : s.get? i = some shape) : (s.modify i fun _ => shape) = s := by
  rw [modify, ← List.set_eq_modify, set_of_get? hi]

/-- A shape of the list after a write was there before, or it is the one that was written. -/
theorem mem_modify {written b : Shape α} (h : b ∈ (s.modify i fun _ => written).shapes) :
    b ∈ s.shapes ∨ b = written := by
  rw [modify, ← List.set_eq_modify] at h
  exact List.mem_or_eq_of_mem_set h

/-- What is written depends on the shape in the place only. -/
theorem modify_congr {f : Shape α → Shape α} (hi : s.get? i = some shape) :
    (s.modify i fun _ => f shape) = s.modify i f := by
  have hmodify : (s.shapes.modify i fun _ => f shape) = s.shapes.modify i f := by
    refine List.ext_getElem? fun j => ?_
    rw [List.getElem?_modify, List.getElem?_modify]
    by_cases hij : i = j
    · subst hij
      have hi : s.shapes[i]? = some shape := hi
      rw [hi]
      rfl
    · simp only [if_neg hij]
  rw [modify, hmodify, modify]

theorem map_id_modify {shape' : Shape α} (hi : s.get? i = some shape) (hid : shape'.id = shape.id) :
    (s.modify i fun _ => shape').shapes.map (·.id) = s.shapes.map (·.id) := by
  refine List.ext_getElem? fun j => ?_
  have hj : (s.modify i fun _ => shape').shapes[j]? =
      s.shapes[j]?.map fun t => if i = j then shape' else t := get?_modify _ i j
  rw [List.getElem?_map, List.getElem?_map, hj]
  by_cases hij : i = j
  · subst hij
    have hi : s.shapes[i]? = some shape := hi
    simp only [hi, Option.map_some, if_true, hid]
  · simp only [hij, if_false, Option.map_id_fun', id_eq]

end Store

/-! ### Active shapes -/

namespace Scene

variable {s : Scene} {i : Nat} {id : Identifier} {shape : Shape Float}

theorem activeShape?_eq_some_iff : s.activeShape? id = some (i, shape) ↔
    s.store.indexOf? id = some i ∧ s.store.get? i = some shape ∧ shape.isActive = true := by
  simp only [activeShape?, Option.bind_eq_bind, Option.bind_eq_some_iff]
  constructor
  · rintro ⟨j, hj, t, ht, hif⟩
    split_ifs at hif with hactive
    cases hif
    exact ⟨hj, ht, hactive⟩
  · rintro ⟨hi, hshape, hactive⟩
    exact ⟨i, hi, shape, hshape, if_pos hactive⟩

theorem id_of_activeShape? (h : s.activeShape? id = some (i, shape)) : shape.id = id := by
  obtain ⟨hi, hshape, -⟩ := activeShape?_eq_some_iff.mp h
  obtain ⟨t, ht, hid⟩ := Store.get?_of_indexOf? hi
  rw [hshape, Option.some.injEq] at ht
  rw [ht, hid]

theorem activeShape?_of_get? (hdistinct : s.store.DistinctIds) (hi : s.store.get? i = some shape)
    (hactive : shape.isActive = true) : s.activeShape? shape.id = some (i, shape) :=
  activeShape?_eq_some_iff.mpr ⟨Store.indexOf?_of_get? hdistinct hi, hi, hactive⟩

/-- An active shape that gets another geometry is found in its place. -/
theorem activeShape?_modify {t : Scene} (h : s.activeShape? id = some (i, shape)) (g : Geometry Float)
    (ht : t.store = s.store.modify i fun _ => { shape with geometry := g }) :
    t.activeShape? id = some (i, { shape with geometry := g }) := by
  obtain ⟨hi, hshape, hactive⟩ := activeShape?_eq_some_iff.mp h
  refine activeShape?_eq_some_iff.mpr ⟨?_, ?_, hactive⟩
  · have hids : t.store.shapes.map (·.id) = s.store.shapes.map (·.id) := by
      rw [ht]
      exact Store.map_id_modify hshape rfl
    rw [Store.indexOf?_congr hids, hi]
  · simp only [ht, Store.get?_modify, hshape, Option.map_some, if_true]

end Scene

end ShapeOverlay
