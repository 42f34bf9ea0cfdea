import ShapeOverlay.Proofs.Editor.Outcome
import ShapeOverlay.Proofs.Shape.Attribute

/-! # Writing an attribute of several shapes

An attribute of the shapes that a selector picks out is written to one after the other, and a shape
where it cannot be is passed over (`Store.writeEach`). Since it depends on the name and the value
alone whether it can be written, it is written to all of them or to none
(`Store.writeEach_of_refuses`, `Store.writeEach_select`). All other shapes are left alone, and so
are length, order, identities and geometries of the list (`Store.Rewritten`). -/

namespace ShapeOverlay

variable {α : Type}

namespace Store

variable {s t : Store α} {places : List Nat} {f : Shape α → Shape α}

/-! ### Changed places -/

theorem ext_get? (h : ∀ i, s.get? i = t.get? i) : s = t :=
  congrArg Store.mk (List.ext_getElem? h)

theorem get?_update (s : Store α) (places : List Nat) (f : Shape α → Shape α) (i : Nat) :
    (s.update places f).get? i =
      (s.get? i).map fun shape => if i ∈ places then f shape else shape :=
  List.getElem?_mapIdx

theorem update_nil (s : Store α) (f : Shape α → Shape α) : s.update [] f = s := by
  refine ext_get? fun i => ?_
  simp [get?_update]

/-- What a change leaves alone is the same along the whole list. -/
theorem map_update {β : Type} {g : Shape α → β} (hg : ∀ shape, g (f shape) = g shape) :
    (s.update places f).shapes.map g = s.shapes.map g := by
  refine List.ext_getElem? fun i => ?_
  rw [List.getElem?_map, List.getElem?_map]
  have hi : (s.update places f).shapes[i]? = _ := get?_update s places f i
  rw [hi, Option.map_map]
  refine Option.map_congr fun shape _ => ?_
  rw [Function.comp_apply]
  split_ifs
  · exact hg shape
  · rfl

/-- A place is changed before others are. -/
theorem update_modify {i : Nat} {shape : Shape α} (hi : s.get? i = some shape)
    (hmem : i ∉ places) :
    (s.modify i fun _ => f shape).update places f = s.update (i :: places) f := by
  refine ext_get? fun j => ?_
  rw [get?_update, get?_update, get?_modify, Option.map_map]
  by_cases hij : i = j
  · subst hij
    simp [hi, hmem]
  · have hji : j ≠ i := fun h => hij h.symm
    simp [hij, hji, Function.comp_def]

/-- **The shapes at some places are written**, and all else is left alone: the length of the list,
its identities, its geometries and the other shapes. -/
structure Rewritten (s t : Store α) (places : List Nat) (write : Shape α → Shape α → Prop) :
    Prop where
  size : t.size = s.size
  ids : t.shapes.map Shape.id = s.shapes.map Shape.id
  geometries : t.shapes.map Shape.geometry = s.shapes.map Shape.geometry
  picked : ∀ i ∈ places, ∃ shape shape', s.get? i = some shape ∧ t.get? i = some shape' ∧
    write shape shape'
  others : ∀ i ∉ places, t.get? i = s.get? i

theorem rewritten_update {write : Shape α → Shape α → Prop} (hlt : ∀ i ∈ places, i < s.size)
    (hid : ∀ shape, (f shape).id = shape.id)
    (hgeometry : ∀ shape, (f shape).geometry = shape.geometry)
    (hwrite : ∀ shape, write shape (f shape)) : Rewritten s (s.update places f) places write where
  size := size_update s places f
  ids := map_update hid
  geometries := map_update hgeometry
  picked i hi := by
    obtain ⟨shape, hshape⟩ := lt_size_iff.1 (hlt i hi)
    refine ⟨shape, f shape, hshape, ?_, hwrite shape⟩
    rw [get?_update, hshape, Option.map_some, if_pos hi]
  others i hi := by
    rw [get?_update]
    simp [hi]

/-! ### One shape after the other -/

/-- The list after an attribute is written at some places one after the other, where it can be, and
at how many of them it could. -/
def writeEach (name : String) (value : Value) : Store α → List Nat → Store α × Nat
  | s, [] => (s, 0)
  | s, i :: places =>
    match s.get? i with
    | none => writeEach name value s places
    | some shape =>
      match shape.setAttribute name value with
      | .ok shape' => (writeEach name value (s.modify i fun _ => shape') places).map id (· + 1)
      | .error _ => writeEach name value s places

variable {name : String} {value : Value}

/-- A value that is refused is written nowhere. -/
theorem writeEach_of_refuses (h : (AttributeName.ofText name).Refuses value) (s : Store α) :
    s.writeEach name value places = (s, 0) := by
  induction places with
  | nil => rfl
  | cons i places ih =>
    rw [writeEach]
    cases s.get? i with
    | none => exact ih
    | some shape =>
      obtain ⟨error, herror⟩ := Shape.setAttribute_eq_error_iff.2 h
      dsimp only
      rw [herror]
      exact ih

theorem setAttribute_of_accepts (h : ¬ (AttributeName.ofText name).Refuses value)
    (shape : Shape α) :
    shape.setAttribute name value = .ok (shape.withAttribute name value) := by
  rcases shape.setAttribute_cases name value with ⟨t, hset, -⟩ | ⟨error, -, hrefuses⟩
  · rw [hset, Shape.withAttribute_of_ok hset]
  · exact absurd hrefuses h

/-- **A value that is not refused is written at all places**, each with the shape from before. -/
theorem writeEach_of_accepts (h : ¬ (AttributeName.ofText name).Refuses value)
    (hnodup : places.Nodup) (hlt : ∀ i ∈ places, i < s.size) :
    s.writeEach name value places =
      (s.update places (·.withAttribute name value), places.length) := by
  induction places generalizing s with
  | nil => rw [writeEach, update_nil, List.length_nil]
  | cons i places ih =>
    obtain ⟨hmem, hnodup⟩ := List.nodup_cons.1 hnodup
    obtain ⟨shape, hshape⟩ := lt_size_iff.1 (hlt i List.mem_cons_self)
    have hstep := update_modify (f := (·.withAttribute name value)) hshape hmem
    have hrest : ∀ j ∈ places, j < (s.modify i fun _ => shape.withAttribute name value).size :=
      fun j hj => by
        rw [size_modify]
        exact hlt j (List.mem_cons_of_mem i hj)
    rw [writeEach, hshape]
    dsimp only
    rw [setAttribute_of_accepts h]
    dsimp only
    rw [ih hnodup hrest, hstep]
    rfl

/-- The places are picked out before the first write, so that it does not matter that a write may
change what the selector picks out. -/
theorem writeEach_select (h : ¬ (AttributeName.ofText name).Refuses value) {selector : Selector} :
    s.writeEach name value (s.select selector) =
      (s.update (s.select selector) (·.withAttribute name value), (s.select selector).length) :=
  writeEach_of_accepts h ((s.pairwise_select selector).imp Nat.ne_of_lt) fun _ => lt_of_mem_select

end Store

/-! ### The list of an editor -/

namespace Editor

variable {e : Editor} {name : String} {value : Value} {selector : Selector}

theorem written_of_refuses (h : (AttributeName.ofText name).Refuses value) (s : Store Float) :
    written s name value selector = [] := by
  refine List.filter_eq_nil_iff.2 fun i _ hany => ?_
  obtain ⟨shape, -, hok⟩ := (Option.any_eq_true _ _).1 hany
  obtain ⟨error, herror⟩ := Shape.setAttribute_eq_error_iff.2 h
  rw [herror] at hok
  cases hok

theorem written_of_accepts (h : ¬ (AttributeName.ofText name).Refuses value) (s : Store Float) :
    written s name value selector = s.select selector := by
  refine List.filter_eq_self.2 fun i hi => ?_
  obtain ⟨shape, hshape⟩ := Store.lt_size_iff.1 (Store.lt_of_mem_select hi)
  rw [hshape, Option.any_some, Store.setAttribute_of_accepts h]
  rfl

/-- **The list after an attribute is written** is the one after it is written to one shape after the
other, and so is the number. -/
theorem setAttribute_eq_writeEach (e : Editor) (name : String) (value : Value)
    (selector : Selector) :
    ((e.setAttribute name value selector).1.store, (e.setAttribute name value selector).2) =
      e.store.writeEach name value (e.store.select selector) := by
  have houtcome := congrArg (fun x : Scene × Nat => (x.1.store, x.2))
    (outcome_setAttribute e name value selector)
  refine houtcome.trans ?_
  dsimp only
  rw [Scene.store_settled]
  by_cases hrefuses : (AttributeName.ofText name).Refuses value
  · rw [written_of_refuses hrefuses, Store.update_nil, Store.writeEach_of_refuses hrefuses]
    rfl
  · rw [written_of_accepts hrefuses, Store.writeEach_select hrefuses]

/-- The value has got to a shape. -/
def Received (name : String) (value : Value) (shape shape' : Shape Float) : Prop :=
  shape.setAttribute name value = .ok shape' ∧
    if value.isNull then shape'.attribute? name = none else shape'.hasAttribute name value = true

theorem received_withAttribute (h : ¬ (AttributeName.ofText name).Refuses value)
    (shape : Shape Float) : Received name value shape (shape.withAttribute name value) := by
  have hset := Store.setAttribute_of_accepts h shape
  have hwritten := Shape.setAttribute_eq_ok_iff.1 hset
  refine ⟨hset, ?_⟩
  split_ifs with hnull
  · exact (hwritten.attribute?_of_isNull hnull).2
  · exact hwritten.hasAttribute (Bool.eq_false_of_not_eq_true hnull)

/-- **A write to several shapes is all or nothing.** An attribute is written to one shape after the
other, to none if the value is refused under the name, and else to all that the selector picked out
before, whose number is returned. A status is always set. In any case all other shapes are left
alone, and so are length, order, identities and geometries of the list. -/
theorem bulk_write_all_or_nothing (e : Editor) (selector : Selector) :
    (∀ (name : String) (value : Value),
      ((e.setAttribute name value selector).1.store, (e.setAttribute name value selector).2) =
        e.store.writeEach name value (e.store.select selector) ∧
      ((AttributeName.ofText name).Refuses value ∧
          (e.setAttribute name value selector).2 = 0 ∧
          (e.setAttribute name value selector).1.store = e.store ∨
        ¬ (AttributeName.ofText name).Refuses value ∧
          (e.setAttribute name value selector).2 = (e.store.select selector).length ∧
          e.store.Rewritten (e.setAttribute name value selector).1.store (e.store.select selector)
            (Received name value))) ∧
    ∀ status : Status,
      (e.setStatus status selector).2 = (e.store.select selector).length ∧
      e.store.Rewritten (e.setStatus status selector).1.store (e.store.select selector)
        fun shape shape' => shape' = { shape with status } := by
  have hlt : ∀ i ∈ e.store.select selector, i < e.store.size := fun _ => Store.lt_of_mem_select
  refine ⟨fun name value => ?_, fun status => ?_⟩
  · have heach := setAttribute_eq_writeEach e name value selector
    refine ⟨heach, ?_⟩
    by_cases hrefuses : (AttributeName.ofText name).Refuses value
    · rw [Store.writeEach_of_refuses hrefuses] at heach
      exact .inl ⟨hrefuses, congrArg Prod.snd heach, congrArg Prod.fst heach⟩
    · rw [Store.writeEach_select hrefuses] at heach
      have hstore : (e.setAttribute name value selector).1.store = _ := congrArg Prod.fst heach
      refine .inr ⟨hrefuses, congrArg Prod.snd heach, ?_⟩
      rw [hstore]
      exact Store.rewritten_update hlt (fun shape => shape.id_withAttribute name value)
        (fun shape => shape.geometry_withAttribute name value) (received_withAttribute hrefuses)
  · have houtcome := outcome_setStatus e status selector
    have hstore : (e.setStatus status selector).1.store = _ :=
      (congrArg (fun x : Scene × Nat => x.1.store) houtcome).trans (Scene.store_settled _)
    refine ⟨congrArg Prod.snd houtcome, ?_⟩
    rw [hstore]
    exact Store.rewritten_update hlt (fun _ => rfl) (fun _ => rfl) fun _ => rfl

end Editor

end ShapeOverlay
