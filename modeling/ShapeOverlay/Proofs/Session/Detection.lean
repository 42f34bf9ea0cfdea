import ShapeOverlay.Proofs.Traversal.Deletion
import ShapeOverlay.Session.Detection

/-! # What detection depends on

Detection selects the last shape in traversal order that the point hits, and only active shapes are
hit. `SelectsAlike` says that it selects the same shape from what is left of a list as from the
whole of it. If only rectangles are hit, this holds as soon as they are left together with their
containers (`selectsAlike_of_hits`); if none is hit, it always holds (`selectsAlike_of_others`), and
in any case if the two traversal orders agree on what is left (`selectsAlike_of_places`).

* Rectangles that do not contain the point can be left out of a list of rectangles
  (`selection_without_distant_rectangles`), as the containers of what is hit contain the point.
* An inactive rectangle is never selected, but may decide by its place in the nesting order which of
  two active shapes comes last (`inactive_container_sways_selection`);
  `selection_without_inactive_shapes` says when it does not. -/

namespace ShapeOverlay.Detection

open Traversal

variable {α : Type} [Scalar α]

/-! ### Searching lists -/

theorem find?_filter_of_imp {β : Type} {q M : β → Bool} (hM : ∀ i, q i = true → M i = true)
    (is : List β) : (is.filter M).find? q = is.find? q := by
  rw [List.find?_filter]
  congr 1
  funext i
  by_cases hi : q i = true
  · simp [hi, hM i hi]
  · simp [hi]

theorem find?_congr {β : Type} {q r : β → Bool} : ∀ {is : List β}, (∀ i ∈ is, q i = r i) →
    is.find? q = is.find? r
  | [], _ => rfl
  | i :: is, h => by
    have ih : is.find? q = is.find? r := find?_congr fun j hj => h j (List.mem_cons_of_mem i hj)
    rw [List.find?_cons, List.find?_cons, h i List.mem_cons_self, ih]

/-! ### Hits -/

/-- The shape at a place is active and its box contains the point. -/
def isHit (shapes : List (Shape α)) (v : Viewport α) (p : Point α) (i : Nat) : Bool :=
  shapes[i]?.any fun s => s.isActive && s.geometry.contains v p

variable {shapes : List (Shape α)} {v : Viewport α} {p : Point α}

theorem isHit_iff {i : Nat} : isHit shapes v p i = true ↔
    ∃ s, shapes[i]? = some s ∧ s.isActive = true ∧ s.geometry.contains v p = true := by
  simp only [isHit, Option.any_eq_true, Bool.and_eq_true]

theorem lt_of_isHit {i : Nat} (h : isHit shapes v p i = true) : i < shapes.length := by
  obtain ⟨s, hs, -⟩ := isHit_iff.mp h
  exact (List.getElem?_eq_some_iff.mp hs).1

/-- **Detection selects the last place in traversal order that is hit.** -/
theorem shapeAt?_eq (shapes : List (Shape α)) (p : Point α) (v : Viewport α) :
    shapeAt? shapes p v = (places shapes).reverse.find? (isHit shapes v p) := by
  have hany : (fun i => (shapes[i]?.map (i, ·)).any fun x : Nat × Shape α =>
      x.2.isActive && x.2.geometry.contains v p) = isHit shapes v p := by
    funext i
    cases hi : shapes[i]? <;> simp [isHit, hi]
  unfold shapeAt? order
  rw [← List.filterMap_reverse, List.find?_filterMap, hany, Option.map_bind]
  cases hfind : (places shapes).reverse.find? (isHit shapes v p) with
  | none => rfl
  | some i =>
    obtain ⟨s, hs, -⟩ := isHit_iff.mp (List.find?_some hfind)
    simp [hs]

theorem isHit_of_shapeAt? {i : Nat} (h : shapeAt? shapes p v = some i) :
    isHit shapes v p i = true := by
  rw [shapeAt?_eq] at h
  exact List.find?_some h

/-- **Nothing is selected exactly if nothing is hit.** -/
theorem shapeAt?_eq_none_iff [OrderedScalar α] :
    shapeAt? shapes p v = none ↔ ∀ i, ¬ isHit shapes v p i = true := by
  rw [shapeAt?_eq, List.find?_eq_none]
  constructor
  · intro h i hi
    have hmem := (places_perm shapes).mem_iff.mpr (List.mem_range.mpr (lt_of_isHit hi))
    exact h i (List.mem_reverse.mpr hmem) hi
  · exact fun h i _ => h i

/-- If only rectangles are hit, the nesting order decides. -/
theorem shapeAt?_eq_nesting [OrderedScalar α]
    (h : ∀ i, isHit shapes v p i = true → IsRectangle (boxes shapes) i) :
    shapeAt? shapes p v = (nesting shapes).reverse.find? (isHit shapes v p) := by
  rw [shapeAt?_eq, ← filter_places_rectangles, ← List.filter_reverse]
  exact (find?_filter_of_imp (fun i hi => decide_eq_true (h i hi)) _).symm

/-- If no rectangle is hit, the order of the list decides. -/
theorem shapeAt?_eq_range [OrderedScalar α]
    (h : ∀ i, isHit shapes v p i = true → ¬ IsRectangle (boxes shapes) i) :
    shapeAt? shapes p v = (List.range shapes.length).reverse.find? (isHit shapes v p) := by
  have hM : ∀ i, isHit shapes v p i = true → decide (¬ IsRectangle (boxes shapes) i) = true :=
    fun i hi => decide_eq_true (h i hi)
  rw [shapeAt?_eq, ← find?_filter_of_imp hM, List.filter_reverse, filter_places_others,
    ← List.filter_reverse, find?_filter_of_imp hM]

/-! ### Selections that agree -/

/-- **Detection selects the same shape from what is left of a list as from the whole of it**, or
none from either. -/
def SelectsAlike (shapes : List (Shape α)) (keep : Shape α × Nat → Bool) (p : Point α)
    (v : Viewport α) : Prop :=
  (shapeAt? (remaining shapes keep) p v).map (fun k => (origins shapes keep)[k]?) =
    (shapeAt? shapes p v).map some

instance (shapes : List (Shape α)) (keep : Shape α × Nat → Bool) (p : Point α)
    (v : Viewport α) : Decidable (SelectsAlike shapes keep p v) := by
  unfold SelectsAlike; infer_instance

variable {keep : Shape α × Nat → Bool}

theorem isHit_remaining {k : Nat} (hk : k < (remaining shapes keep).length) :
    isHit (remaining shapes keep) v p k = isHit shapes v p (origin shapes keep k) := by
  rw [isHit, isHit, getElem?_remaining hk]

/-- What is hit is found in the same order in two lists of places that agree on it. -/
theorem find?_of_filter {l m : List Nat} {M : Nat → Bool}
    (hm : ∀ k ∈ m, k < (remaining shapes keep).length)
    (hM : ∀ i, isHit shapes v p i = true → M i = true)
    (h : l.filter M =
      (m.filter fun k => M (origin shapes keep k)).map (origin shapes keep)) :
    l.reverse.find? (isHit shapes v p) =
      (m.reverse.find? (isHit (remaining shapes keep) v p)).map (origin shapes keep) := by
  have hmap : ((m.filter fun k => M (origin shapes keep k)).map (origin shapes keep)) =
      (m.map (origin shapes keep)).filter M := by
    rw [List.filter_map]
    rfl
  -- what is left out of either list of places is not hit
  rw [← find?_filter_of_imp hM, List.filter_reverse, h, hmap, ← List.filter_reverse,
    find?_filter_of_imp hM, ← List.map_reverse, List.find?_map]
  refine congrArg (Option.map _) (find?_congr fun k hk => ?_)
  exact (isHit_remaining (hm k (List.mem_reverse.mp hk))).symm

theorem selectsAlike_of_map
    (h : shapeAt? shapes p v =
      (shapeAt? (remaining shapes keep) p v).map (origin shapes keep)) :
    SelectsAlike shapes keep p v := by
  unfold SelectsAlike
  rw [h]
  cases hsel : shapeAt? (remaining shapes keep) p v with
  | none => rfl
  | some k =>
    simp [getElem?_origins (lt_of_isHit (isHit_of_shapeAt? hsel))]

variable [OrderedScalar α]

/-- If all that is hit is left, nothing is selected from what is left exactly if nothing is from the
whole. -/
theorem shapeAt?_remaining_eq_none_iff
    (hkeep : ∀ i, isHit shapes v p i = true → i ∈ origins shapes keep) :
    shapeAt? (remaining shapes keep) p v = none ↔ shapeAt? shapes p v = none := by
  rw [shapeAt?_eq_none_iff, shapeAt?_eq_none_iff]
  constructor
  · intro h i hi
    obtain ⟨k, hk, rfl⟩ := exists_origin (hkeep i hi)
    exact h k ((isHit_remaining hk).trans hi)
  · intro h k hk
    exact h _ ((isHit_remaining (lt_of_isHit hk)).symm.trans hk)

omit [OrderedScalar α] in
/-- If all that is hit is left, it is found in the same order in two lists of places that agree on
what is left. -/
theorem find?_of_origins {l m : List Nat} (hm : ∀ k ∈ m, k < (remaining shapes keep).length)
    (hkeep : ∀ i, isHit shapes v p i = true → i ∈ origins shapes keep)
    (h : l.filter (fun i => decide (i ∈ origins shapes keep)) = m.map (origin shapes keep)) :
    l.reverse.find? (isHit shapes v p) =
      (m.reverse.find? (isHit (remaining shapes keep) v p)).map (origin shapes keep) := by
  refine find?_of_filter hm (fun i hi => decide_eq_true (hkeep i hi)) ?_
  rw [h, List.filter_eq_self.mpr fun k hk => decide_eq_true (origin_mem (hm k hk))]

/-- **Selections agree if the traversal orders agree on what is left** and all that is hit is
left. -/
theorem selectsAlike_of_places
    (hkeep : ∀ i, isHit shapes v p i = true → i ∈ origins shapes keep)
    (hplaces : (places shapes).filter (fun i => decide (i ∈ origins shapes keep)) =
      (places (remaining shapes keep)).map (origin shapes keep)) :
    SelectsAlike shapes keep p v := by
  refine selectsAlike_of_map ?_
  rw [shapeAt?_eq, shapeAt?_eq]
  exact find?_of_origins (fun _ => lt_of_mem_places) hkeep hplaces

/-- **Selections agree if no rectangle is hit** and all that is hit is left. -/
theorem selectsAlike_of_others
    (hother : ∀ i, isHit shapes v p i = true → ¬ IsRectangle (boxes shapes) i)
    (hkeep : ∀ i, isHit shapes v p i = true → i ∈ origins shapes keep) :
    SelectsAlike shapes keep p v := by
  refine selectsAlike_of_map ?_
  have hother' : ∀ k, isHit (remaining shapes keep) v p k = true →
      ¬ IsRectangle (boxes (remaining shapes keep)) k := by
    intro k hk hrect
    have hlt := lt_of_isHit hk
    rw [isHit_remaining hlt] at hk
    exact hother _ hk ((isRectangle_remaining hlt).mp hrect)
  rw [shapeAt?_eq_range hother, shapeAt?_eq_range hother']
  exact find?_of_origins (fun _ => List.mem_range.mp) hkeep filter_range_origins

omit [OrderedScalar α] in
/-- The shape at a place is hit, or strictly contains one that is. -/
def isAround (shapes : List (Shape α)) (v : Viewport α) (p : Point α) (i : Nat) : Bool :=
  isHit shapes v p i ||
    (List.range shapes.length).any fun j => isHit shapes v p j && encloses (boxes shapes) i j

omit [OrderedScalar α] in
theorem isAround_iff {i : Nat} : isAround shapes v p i = true ↔ isHit shapes v p i = true ∨
    ∃ j, isHit shapes v p j = true ∧ encloses (boxes shapes) i j = true := by
  simp only [isAround, Bool.or_eq_true, List.any_eq_true, List.mem_range, Bool.and_eq_true]
  exact or_congr_right
    ⟨fun ⟨j, _, hj⟩ => ⟨j, hj⟩, fun ⟨j, hj⟩ => ⟨j, lt_of_isHit hj.1, hj⟩⟩

/-- What strictly contains something around the point is around the point. -/
theorem isAround_of_encloses {i o : Nat} (hi : isAround shapes v p i = true)
    (ho : encloses (boxes shapes) o i = true) : isAround shapes v p o = true := by
  refine isAround_iff.mpr (Or.inr ?_)
  rcases isAround_iff.mp hi with hi | ⟨j, hj, hij⟩
  · exact ⟨i, hi, ho⟩
  · exact ⟨j, hj, encloses_trans ho hij⟩

/-- **Selections agree if only rectangles are hit and these are left together with all their
containers.** -/
theorem selectsAlike_of_hits
    (hrect : ∀ i, isHit shapes v p i = true → IsRectangle (boxes shapes) i)
    (hkeep : ∀ i, isHit shapes v p i = true → i ∈ origins shapes keep)
    (hcont : ∀ i o, isHit shapes v p i = true → encloses (boxes shapes) o i = true →
      o ∈ origins shapes keep) : SelectsAlike shapes keep p v := by
  refine selectsAlike_of_map ?_
  have hrect' : ∀ k, isHit (remaining shapes keep) v p k = true →
      IsRectangle (boxes (remaining shapes keep)) k := by
    intro k hk
    have hlt := lt_of_isHit hk
    rw [isHit_remaining hlt] at hk
    exact (isRectangle_remaining hlt).mpr (hrect _ hk)
  have hkept : ∀ i, IsRectangle (boxes shapes) i → isAround shapes v p i = true →
      i ∈ origins shapes keep := by
    intro i _ hi
    rcases isAround_iff.mp hi with hi | ⟨j, hj, hij⟩
    · exact hkeep i hi
    · exact hcont j i hj hij
  rw [shapeAt?_eq_nesting hrect, shapeAt?_eq_nesting hrect']
  -- the two nesting orders agree on what is around the point, and all that is hit is
  refine find?_of_filter (fun k hk => ?_) (fun i hi => isAround_iff.mpr (Or.inl hi))
    (filter_nesting_remaining (fun _ _ => isAround_of_encloses) hkept)
  rw [(nesting_perm _).mem_iff, mem_rectangles] at hk
  exact lt_of_isRectangle hk

/-! ### Rectangles away from the point -/

omit [OrderedScalar α] in
theorem contains_of_nestingBox? {g : Geometry α} {b : Bounds α} (h : g.nestingBox? = some b) :
    g.contains v p = b.containsPoint p := by
  cases g with
  | rectangle a c =>
    cases h
    rfl
  | polygon _ => cases h
  | circle _ _ => cases h

/-- **What strictly contains a shape that contains the point contains the point.** -/
theorem contains_of_encloses {o i : Nat} (h : encloses (boxes shapes) o i = true) {s : Shape α}
    (hs : shapes[i]? = some s) (hp : s.geometry.contains v p = true) :
    ∃ t, shapes[o]? = some t ∧ t.geometry.contains v p = true := by
  obtain ⟨b, c, hb, hc, -, hbc⟩ := encloses_iff.mp h
  rw [boxes, List.getElem?_map] at hb hc
  obtain ⟨t, ht, hb⟩ := Option.map_eq_some_iff.mp hb
  rw [hs, Option.map_some, Option.some.injEq] at hc
  rw [contains_of_nestingBox? hc] at hp
  refine ⟨t, ht, ?_⟩
  rw [contains_of_nestingBox? hb]
  exact Bounds.containsPoint_of_contains (Bounds.strictlyContains_iff.mp hbc).1 hp

omit [OrderedScalar α] in
theorem isRectangle_of_kind {i : Nat} {s : Shape α} (hs : shapes[i]? = some s)
    (hkind : s.kind = .rectangle) : IsRectangle (boxes shapes) i :=
  isRectangle_boxes.mpr ⟨s, hs, isNesting_iff.mpr hkind⟩

omit [OrderedScalar α] in
theorem exists_of_encloses {o i : Nat} (h : encloses (boxes shapes) o i = true) :
    ∃ s, shapes[o]? = some s ∧ ∃ t, shapes[i]? = some t := by
  obtain ⟨s, hs, -⟩ := isRectangle_boxes.mp (isRectangle_left h)
  obtain ⟨t, ht, -⟩ := isRectangle_boxes.mp (isRectangle_right h)
  exact ⟨s, hs, t, ht⟩

/-- **Rectangles away from the point do not matter** in a list of active rectangles: detection
selects the same shape without them. -/
theorem selection_without_distant_rectangles (shapes : List (Shape Float))
    (keep : Shape Float × Nat → Bool) (p : Point Float) (v : Viewport Float)
    (hall : ∀ s ∈ shapes, s.isActive = true ∧ s.kind = .rectangle)
    (hdrop : ∀ x ∈ shapes.zipIdx, keep x = false → ¬ x.1.geometry.contains v p = true) :
    SelectsAlike shapes keep p v := by
  have hkept : ∀ (i : Nat) (s : Shape Float), shapes[i]? = some s →
      s.geometry.contains v p = true → i ∈ origins shapes keep := by
    intro i s hs hcontains
    exact mem_origins_of_forall (P := fun s => s.geometry.contains v p = true) hdrop hs hcontains
  refine selectsAlike_of_hits (fun i hi => ?_) (fun i hi => ?_) fun i o hi ho => ?_
  · obtain ⟨s, hs, -⟩ := isHit_iff.mp hi
    exact isRectangle_of_kind hs (hall s (List.mem_of_getElem? hs)).2
  · obtain ⟨s, hs, -, hcontains⟩ := isHit_iff.mp hi
    exact hkept i s hs hcontains
  · obtain ⟨s, hs, -, hcontains⟩ := isHit_iff.mp hi
    obtain ⟨t, ht, hcontains⟩ := contains_of_encloses ho hs hcontains
    exact hkept o t ht hcontains

/-- Of two nested rectangles and a third one that holds back one of them in the nesting order, the
inner one is selected with and without the third one. -/
theorem selection_without_distant_container :
    let shapes : List (Shape Float) := [
      { id := .nil, geometry := .rectangle ⟨4, 4⟩ ⟨6, 6⟩ },
      { id := .nil, geometry := .rectangle ⟨7, 7⟩ ⟨8, 8⟩ },
      { id := .nil, geometry := .rectangle ⟨1, 1⟩ ⟨9, 9⟩ },
      { id := .nil, geometry := .rectangle ⟨2, 2⟩ ⟨8, 8⟩ }]
    let keep : Shape Float × Nat → Bool := fun x => x.2 != 1
    (∀ s ∈ shapes, s.isActive = true ∧ s.kind = .rectangle) ∧
      (∀ x ∈ shapes.zipIdx, keep x = false → ¬ x.1.geometry.contains ⟨10, 10⟩ ⟨5, 5⟩ = true) ∧
      shapeAt? shapes ⟨5, 5⟩ ⟨10, 10⟩ = some 0 ∧ SelectsAlike shapes keep ⟨5, 5⟩ ⟨10, 10⟩ := by
  intro shapes keep
  have hall : ∀ s ∈ shapes, s.isActive = true ∧ s.kind = .rectangle := by decide
  have hdrop : ∀ x ∈ shapes.zipIdx, keep x = false →
      ¬ x.1.geometry.contains ⟨10, 10⟩ ⟨5, 5⟩ = true := by decide
  exact ⟨hall, hdrop, by decide,
    selection_without_distant_rectangles shapes keep ⟨5, 5⟩ ⟨10, 10⟩ hall hdrop⟩

/-! ### Inactive shapes -/

/-- **Detection and shapes that are not active**: none of them is ever selected, and without them
something is selected exactly if something is with them. It is the same shape

* if no rectangle is left out;
* if only rectangles are hit and none that is left out strictly contains one of them;
* if the list has every rectangle behind those that strictly contain it;
* if no rectangle is hit.

Otherwise what is left out may have held back a shape in the traversal order, or let it pass. -/
theorem selection_without_inactive_shapes (shapes : List (Shape Float))
    (keep : Shape Float × Nat → Bool) (p : Point Float) (v : Viewport Float)
    (hdrop : ∀ x ∈ shapes.zipIdx, keep x = false → ¬ x.1.isActive = true) :
    (∀ i, shapeAt? shapes p v = some i →
      ∃ s, shapes[i]? = some s ∧ s.isActive = true ∧ s.geometry.contains v p = true) ∧
    (shapeAt? (remaining shapes keep) p v = none ↔ shapeAt? shapes p v = none) ∧
    ((∀ x ∈ shapes.zipIdx, x.1.kind = .rectangle → keep x = true) →
      SelectsAlike shapes keep p v) ∧
    ((∀ x ∈ shapes.zipIdx, isHit shapes v p x.2 = true → x.1.kind = .rectangle) →
      (∀ x ∈ shapes.zipIdx, ∀ y ∈ shapes.zipIdx, isHit shapes v p y.2 = true →
        encloses (boxes shapes) x.2 y.2 = true → keep x = true) →
      SelectsAlike shapes keep p v) ∧
    ((∀ x ∈ shapes.zipIdx, ∀ y ∈ shapes.zipIdx, encloses (boxes shapes) x.2 y.2 = true →
        x.2 < y.2) → SelectsAlike shapes keep p v) ∧
    ((∀ x ∈ shapes.zipIdx, isHit shapes v p x.2 = true → x.1.kind ≠ .rectangle) →
      SelectsAlike shapes keep p v) := by
  have hkeep : ∀ i, isHit shapes v p i = true → i ∈ origins shapes keep := by
    intro i hi
    obtain ⟨s, hs, hactive, -⟩ := isHit_iff.mp hi
    exact mem_origins_of_forall (P := fun s => s.isActive = true) hdrop hs hactive
  refine ⟨fun i hi => isHit_iff.mp (isHit_of_shapeAt? hi), ?_, fun hrect => ?_,
    fun hrect hcont => ?_, fun hnested => ?_, fun hother => ?_⟩
  · exact shapeAt?_remaining_eq_none_iff hkeep
  · exact selectsAlike_of_places hkeep
      (filter_places_of_rectangles fun x hx hnest => hrect x hx (isNesting_iff.mp hnest))
  · refine selectsAlike_of_hits (fun i hi => ?_) hkeep fun i o hi ho => ?_
    · obtain ⟨s, hs, -⟩ := isHit_iff.mp hi
      exact isRectangle_of_kind hs (hrect (s, i) (List.mem_zipIdx_iff_getElem?.mpr hs) hi)
    · obtain ⟨s, hs, t, ht⟩ := exists_of_encloses ho
      exact mem_origins.mpr ⟨s, hs, hcont (s, o) (List.mem_zipIdx_iff_getElem?.mpr hs) (t, i)
        (List.mem_zipIdx_iff_getElem?.mpr ht) hi ho⟩
  · refine selectsAlike_of_places hkeep (filter_places_of_nested fun o i ho => ?_)
    obtain ⟨s, hs, t, ht⟩ := exists_of_encloses ho
    exact hnested (s, o) (List.mem_zipIdx_iff_getElem?.mpr hs) (t, i)
      (List.mem_zipIdx_iff_getElem?.mpr ht) ho
  · refine selectsAlike_of_others (fun i hi hrect => ?_) hkeep
    obtain ⟨s, hs, hnest⟩ := isRectangle_boxes.mp hrect
    exact hother (s, i) (List.mem_zipIdx_iff_getElem?.mpr hs) hi (isNesting_iff.mp hnest)

/-- The later of two overlapping rectangles is selected with an inactive circle and an inactive
rectangle inside the two, without the circle, and, for either of two reasons, without both. So is a
triangle away from them all. -/
theorem selection_without_inactive_contents :
    let shapes : List (Shape Float) := [
      { id := .nil, geometry := .rectangle ⟨0, 0⟩ ⟨4, 4⟩ },
      { id := .nil, geometry := .circle ⟨2, 2⟩ ⟨3, 3⟩, status := .inactive },
      { id := .nil, geometry := .rectangle ⟨1, 1⟩ ⟨5, 5⟩ },
      { id := .nil, geometry := .rectangle ⟨2, 2⟩ ⟨3, 3⟩, status := .inactive },
      { id := .nil, geometry := .polygon [⟨7, 7⟩, ⟨9, 7⟩, ⟨8, 9⟩] }]
    let keep : Shape Float × Nat → Bool := fun x => x.1.isActive
    let keepNested : Shape Float × Nat → Bool := fun x => x.2 != 1
    shapeAt? shapes ⟨2.5, 2.5⟩ ⟨10, 10⟩ = some 2 ∧
      shapeAt? (remaining shapes keep) ⟨2.5, 2.5⟩ ⟨10, 10⟩ = some 1 ∧
      SelectsAlike shapes keepNested ⟨2.5, 2.5⟩ ⟨10, 10⟩ ∧
      SelectsAlike shapes keep ⟨2.5, 2.5⟩ ⟨10, 10⟩ ∧
      SelectsAlike shapes keep ⟨2.5, 2.5⟩ ⟨10, 10⟩ ∧
      shapeAt? shapes ⟨8, 8⟩ ⟨10, 10⟩ = some 4 ∧ SelectsAlike shapes keep ⟨8, 8⟩ ⟨10, 10⟩ := by
  intro shapes keep keepNested
  have hinactive := selection_without_inactive_shapes shapes keep ⟨2.5, 2.5⟩ ⟨10, 10⟩ (by decide)
  have hcircle :=
    selection_without_inactive_shapes shapes keepNested ⟨2.5, 2.5⟩ ⟨10, 10⟩ (by decide)
  have haway := selection_without_inactive_shapes shapes keep ⟨8, 8⟩ ⟨10, 10⟩ (by decide)
  exact ⟨by decide +kernel, by decide +kernel, hcircle.2.2.1 (by decide),
    hinactive.2.2.2.1 (by decide +kernel) (by decide +kernel),
    hinactive.2.2.2.2.1 (by decide +kernel), by decide +kernel, haway.2.2.2.2.2 (by decide +kernel)⟩

/-- An inactive rectangle around the earlier of two overlapping rectangles makes it come behind the
later one, and so be selected. -/
theorem inactive_container_sways_selection :
    ¬ ∀ (shapes : List (Shape Float)) (p : Point Float) (v : Viewport Float),
      SelectsAlike shapes (·.1.isActive) p v := by
  intro h
  have hsel := h [
    { id := .nil, geometry := .rectangle ⟨0.25, 0.25⟩ ⟨0.5, 0.5⟩ },
    { id := .nil, geometry := .rectangle ⟨0.375, 0.375⟩ ⟨1, 1⟩ },
    { id := .nil, geometry := .rectangle ⟨0, 0⟩ ⟨0.75, 0.75⟩, status := .inactive }]
    ⟨0.4375, 0.4375⟩ ⟨100, 100⟩
  revert hsel
  decide

end ShapeOverlay.Detection
