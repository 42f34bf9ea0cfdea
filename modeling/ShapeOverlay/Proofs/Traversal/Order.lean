import ShapeOverlay.Proofs.Scalar.Binary64
import ShapeOverlay.Proofs.Traversal.Nesting

/-! # The traversal order is a permutation

The nesting order has one place for each rectangle, so that dealing it into the places of the
rectangles uses it up and leaves nothing out (`deal_perm`). What is no rectangle stays where it is
(`getElem?_deal`), the place of a rectangle gets the next of the nesting order
(`getElem?_deal_of_isNesting`), and a relation that holds along the nesting order, and of everything
that is no rectangle, holds along the places that are dealt (`pairwise_deal`). -/

namespace ShapeOverlay.Traversal

variable {α : Type} [Scalar α]

/-- The shape takes part in nesting. -/
def isNesting (p : Shape α × Nat) : Bool := p.1.geometry.nestingBox?.isSome

theorem isNesting_iff {p : Shape α × Nat} : isNesting p = true ↔ p.1.kind = .rectangle := by
  rcases p with ⟨⟨_, g, _, _, _, _⟩, i⟩
  cases g <;> simp [isNesting, Geometry.nestingBox?, Shape.kind, Geometry.kind]

/-! ### Dealing -/

theorem deal_of_isNesting {p : Shape α × Nat} (hp : isNesting p = true) (j : Nat)
    (next : List Nat) (l : List (Shape α × Nat)) : deal (j :: next) (p :: l) = j :: deal next l := by
  obtain ⟨b, hb⟩ := Option.isSome_iff_exists.mp hp
  rcases p with ⟨s, i⟩
  simp only [deal, hb]

theorem deal_nil_of_isNesting {p : Shape α × Nat} (hp : isNesting p = true)
    (l : List (Shape α × Nat)) : deal [] (p :: l) = deal [] l := by
  obtain ⟨b, hb⟩ := Option.isSome_iff_exists.mp hp
  rcases p with ⟨s, i⟩
  simp only [deal, hb]

theorem deal_of_not_isNesting {p : Shape α × Nat} (hp : ¬ isNesting p = true) (next : List Nat)
    (l : List (Shape α × Nat)) : deal next (p :: l) = p.2 :: deal next l := by
  have hb : p.1.geometry.nestingBox? = none := by simpa [isNesting] using hp
  rcases p with ⟨s, i⟩
  simp only [deal, hb]

/-- **One place is dealt**: the next of those that are left to a rectangle, and its own to any
other shape. -/
theorem deal_cons {next : List Nat} {p : Shape α × Nat} {l : List (Shape α × Nat)}
    (h : next.length = (p :: l).countP isNesting) :
    (isNesting p = true ∧ ∃ j rest, next = j :: rest ∧ rest.length = l.countP isNesting ∧
      deal next (p :: l) = j :: deal rest l) ∨
    (¬ isNesting p = true ∧ next.length = l.countP isNesting ∧
      deal next (p :: l) = p.2 :: deal next l) := by
  by_cases hp : isNesting p = true
  · rw [List.countP_cons_of_pos hp] at h
    obtain ⟨j, rest, rfl⟩ := List.exists_cons_of_length_eq_add_one h
    exact Or.inl ⟨hp, j, rest, rfl, by simpa using h, deal_of_isNesting hp j rest l⟩
  · rw [List.countP_cons_of_neg hp] at h
    exact Or.inr ⟨hp, h, deal_of_not_isNesting hp next l⟩

theorem deal_perm : ∀ {next : List Nat} {l : List (Shape α × Nat)},
    next.length = l.countP isNesting →
    (deal next l).Perm (next ++ (l.filter (!isNesting ·)).map (·.2))
  | next, [], h => by
    have hnil : next = [] := List.length_eq_zero_iff.mp h
    subst hnil
    exact .refl _
  | next, p :: l, h => by
    rcases deal_cons h with ⟨hp, j, rest, rfl, hl, hdeal⟩ | ⟨hp, hl, hdeal⟩
    · rw [hdeal, List.filter_cons_of_neg (by simp [hp])]
      exact (deal_perm hl).cons j
    · rw [hdeal, List.filter_cons_of_pos (by simp [hp])]
      exact ((deal_perm hl).cons p.2).trans List.perm_middle.symm

/-- At the place of a rectangle stands the next of those that are left over from the places before
it. -/
theorem getElem?_deal_of_isNesting : ∀ {next : List Nat} {l : List (Shape α × Nat)} {k : Nat}
    {p : Shape α × Nat}, next.length = l.countP isNesting → l[k]? = some p →
    isNesting p = true → (deal next l)[k]? = next[(l.take k).countP isNesting]?
  | next, q :: l, k, p, h, hk, hp => by
    rcases deal_cons h with ⟨hq, j, rest, rfl, hl, hdeal⟩ | ⟨hq, hl, hdeal⟩
    · rw [hdeal]
      cases k with
      | zero => rfl
      | succ k =>
        rw [List.take_succ_cons, List.countP_cons_of_pos hq]
        exact getElem?_deal_of_isNesting hl hk hp
    · rw [hdeal]
      cases k with
      | zero =>
        cases hk
        exact absurd hp hq
      | succ k =>
        rw [List.take_succ_cons, List.countP_cons_of_neg hq]
        exact getElem?_deal_of_isNesting hl hk hp

theorem getElem?_deal : ∀ {next : List Nat} {l : List (Shape α × Nat)} {k : Nat}
    {p : Shape α × Nat}, next.length = l.countP isNesting → l[k]? = some p →
    ¬ isNesting p = true → (deal next l)[k]? = some p.2
  | next, q :: l, k, p, h, hk, hp => by
    rcases deal_cons h with ⟨hq, j, rest, rfl, hl, hdeal⟩ | ⟨-, hl, hdeal⟩
    · rw [hdeal]
      cases k with
      | zero =>
        cases hk
        exact absurd hq hp
      | succ k => exact getElem?_deal hl hk hp
    · rw [hdeal]
      cases k with
      | zero =>
        cases hk
        rfl
      | succ k => exact getElem?_deal hl hk hp

theorem pairwise_deal {R : Nat → Nat → Prop} : ∀ {next : List Nat} {l : List (Shape α × Nat)},
    next.length = l.countP isNesting → next.Pairwise R →
    (∀ p ∈ l, ¬ isNesting p = true → ∀ k, R p.2 k ∧ R k p.2) → (deal next l).Pairwise R
  | _, [], _, _, _ => List.Pairwise.nil
  | next, p :: l, h, hR, hfree => by
    have hfree' : ∀ q ∈ l, ¬ isNesting q = true → ∀ k, R q.2 k ∧ R k q.2 :=
      fun q hq => hfree q (List.mem_cons_of_mem p hq)
    rcases deal_cons h with ⟨-, j, rest, rfl, hl, hdeal⟩ | ⟨hp, hl, hdeal⟩
    · obtain ⟨hj, hR⟩ := List.pairwise_cons.mp hR
      rw [hdeal]
      refine List.pairwise_cons.mpr ⟨fun k hk => ?_, pairwise_deal hl hR hfree'⟩
      rcases List.mem_append.mp ((deal_perm hl).mem_iff.mp hk) with hk | hk
      · exact hj k hk
      · obtain ⟨q, hq, rfl⟩ := List.mem_map.mp hk
        obtain ⟨hq, hno⟩ := List.mem_filter.mp hq
        exact (hfree' q hq (by simpa using hno) j).2
    · rw [hdeal]
      have hhead : ∀ k, R p.2 k := fun k => (hfree p (by simp) hp k).1
      exact List.pairwise_cons.mpr ⟨fun k _ => hhead k, pairwise_deal hl hR hfree'⟩

/-! ### All places -/

omit [Scalar α] in
theorem map_snd_zipIdx (shapes : List (Shape α)) :
    shapes.zipIdx.map (·.2) = List.range shapes.length := by
  rw [List.zipIdx_map_snd, List.range_eq_range']

theorem isRectangle_boxes {shapes : List (Shape α)} {i : Nat} :
    IsRectangle (boxes shapes) i ↔ ∃ s, shapes[i]? = some s ∧ isNesting (s, i) = true := by
  rw [IsRectangle, boxes, List.getElem?_map]
  cases shapes[i]? <;> simp [isNesting]

theorem lt_of_isRectangle {shapes : List (Shape α)} {k : Nat} (h : IsRectangle (boxes shapes) k) :
    k < shapes.length := by
  have := h.lt
  rwa [boxes, List.length_map] at this

/-- The places of the rectangles of a list. -/
theorem mem_rectangles {shapes : List (Shape α)} {i : Nat} :
    i ∈ (shapes.zipIdx.filter isNesting).map (·.2) ↔ IsRectangle (boxes shapes) i := by
  rw [isRectangle_boxes]
  constructor
  · intro hi
    obtain ⟨⟨s, k⟩, hp, rfl⟩ := List.mem_map.mp hi
    obtain ⟨hp, hq⟩ := List.mem_filter.mp hp
    exact ⟨s, List.mem_zipIdx_iff_getElem?.mp hp, hq⟩
  · rintro ⟨s, hs, hq⟩
    exact List.mem_map.mpr
      ⟨(s, i), List.mem_filter.mpr ⟨List.mem_zipIdx_iff_getElem?.mpr hs, hq⟩, rfl⟩

theorem nodup_nesting [OrderedScalar α] (shapes : List (Shape α)) : (nesting shapes).Nodup := by
  obtain ⟨t, -, ht, -, hn⟩ := exists_sorting shapes
  rw [hn]
  exact ht.nodup

theorem nesting_perm [OrderedScalar α] (shapes : List (Shape α)) :
    (nesting shapes).Perm ((shapes.zipIdx.filter isNesting).map (·.2)) := by
  obtain ⟨t, -, ht, hr, hn⟩ := exists_sorting shapes
  have hnd : ((shapes.zipIdx.filter isNesting).map (·.2)).Nodup := by
    refine (List.filter_sublist.map _).nodup ?_
    rw [map_snd_zipIdx]
    exact List.nodup_range
  rw [hn]
  refine (List.perm_ext_iff_of_nodup ht.nodup hnd).mpr fun i => ?_
  rw [mem_rectangles]
  exact ⟨ht.rectangle i, Sorting.mem_taken ht hr⟩

theorem length_nesting [OrderedScalar α] (shapes : List (Shape α)) :
    (nesting shapes).length = shapes.zipIdx.countP isNesting := by
  rw [(nesting_perm shapes).length_eq, List.length_map, List.countP_eq_length_filter]

theorem places_perm [OrderedScalar α] (shapes : List (Shape α)) :
    (places shapes).Perm (List.range shapes.length) := by
  refine (deal_perm (length_nesting shapes)).trans ?_
  refine ((nesting_perm shapes).append_right _).trans ?_
  rw [← List.map_append, ← map_snd_zipIdx]
  exact (List.filter_append_perm isNesting shapes.zipIdx).map _

theorem lt_of_mem_places [OrderedScalar α] {shapes : List (Shape α)} {i : Nat}
    (h : i ∈ places shapes) : i < shapes.length :=
  List.mem_range.mp ((places_perm shapes).mem_iff.mp h)

/-- No place stands before one whose rectangle strictly contains the one there. -/
theorem pairwise_places [OrderedScalar α] (shapes : List (Shape α)) :
    (places shapes).Pairwise fun i j => ¬ encloses (boxes shapes) j i = true := by
  obtain ⟨t, -, ht, -, hn⟩ := exists_sorting shapes
  refine pairwise_deal (length_nesting shapes) (hn ▸ ht.ordered) fun p hp hno k => ?_
  have hnot : ¬ IsRectangle (boxes shapes) p.2 := by
    rw [isRectangle_boxes]
    rintro ⟨s, hs, hq⟩
    rw [List.mem_zipIdx_iff_getElem?] at hp
    rw [hp] at hs
    cases hs
    exact hno hq
  exact ⟨fun h => hnot (isRectangle_right h), fun h => hnot (isRectangle_left h)⟩

/-! ### The order of the shapes -/

omit [Scalar α] in
/-- Looking up places that are all taken up leaves none out. -/
theorem getElem?_filterMap_places {shapes : List (Shape α)} : ∀ {is : List Nat} {k : Nat},
    (∀ i ∈ is, i < shapes.length) → (is.filterMap fun i => shapes[i]?.map (i, ·))[k]? =
      is[k]?.bind fun i => shapes[i]?.map (i, ·)
  | [], k, _ => by simp
  | i :: is, k, hlt => by
    have hi := hlt i (by simp)
    rw [List.filterMap_cons_some (b := (i, shapes[i])) (by simp [hi])]
    cases k with
    | zero => simp [hi]
    | succ k =>
      rw [List.getElem?_cons_succ, List.getElem?_cons_succ]
      exact getElem?_filterMap_places fun j hj => hlt j (List.mem_cons_of_mem i hj)

theorem getElem?_order [OrderedScalar α] (shapes : List (Shape α)) (k : Nat) :
    (order shapes)[k]? = (places shapes)[k]?.bind fun i => shapes[i]?.map (i, ·) :=
  getElem?_filterMap_places fun _ => lt_of_mem_places

theorem getElem?_order_eq_some [OrderedScalar α] {shapes : List (Shape α)} {k : Nat}
    {x : Nat × Shape α} :
    (order shapes)[k]? = some x ↔ (places shapes)[k]? = some x.1 ∧ shapes[x.1]? = some x.2 := by
  rw [getElem?_order, Option.bind_eq_some_iff]
  constructor
  · rintro ⟨i, hi, hx⟩
    obtain ⟨s, hs, rfl⟩ := Option.map_eq_some_iff.mp hx
    exact ⟨hi, hs⟩
  · rintro ⟨hi, hs⟩
    exact ⟨x.1, hi, by rw [hs]; rfl⟩

theorem map_fst_order [OrderedScalar α] (shapes : List (Shape α)) :
    (order shapes).map (·.1) = places shapes := by
  refine List.ext_getElem? fun k => ?_
  rw [List.getElem?_map, getElem?_order]
  cases hk : (places shapes)[k]? with
  | none => rfl
  | some i =>
    have hi := lt_of_mem_places (List.mem_of_getElem? hk)
    simp [hi]

/-- A rectangle comes before every rectangle that it strictly contains. -/
theorem lt_of_strictlyContains [OrderedScalar α] {shapes : List (Shape α)} {p q : Nat}
    {x y : Nat × Shape α} {b c : Bounds α} (hx : (order shapes)[p]? = some x)
    (hy : (order shapes)[q]? = some y) (hb : x.2.geometry.nestingBox? = some b)
    (hc : y.2.geometry.nestingBox? = some c) (hbc : b.strictlyContains c = true) : p < q := by
  obtain ⟨hp, hx⟩ := getElem?_order_eq_some.mp hx
  obtain ⟨hq, hy⟩ := getElem?_order_eq_some.mp hy
  have hne : x.1 ≠ y.1 := by
    intro he
    rw [he, hy, Option.some.injEq] at hx
    rw [← hx, hc, Option.some.injEq] at hb
    rw [hb] at hbc
    exact Bounds.strictlyContains_irrefl b hbc
  have hxy : encloses (boxes shapes) x.1 y.1 = true := by
    refine encloses_iff.mpr ⟨b, c, ?_, ?_, hne, hbc⟩
    · rw [boxes, List.getElem?_map, hx, Option.map_some, hb]
    · rw [boxes, List.getElem?_map, hy, Option.map_some, hc]
  obtain ⟨hplt, hpx⟩ := List.getElem?_eq_some_iff.mp hp
  obtain ⟨hqlt, hqy⟩ := List.getElem?_eq_some_iff.mp hq
  rcases Nat.lt_trichotomy p q with h | h | h
  · exact h
  · subst h
    exact absurd (hpx.symm.trans hqy) hne
  · have hno := List.pairwise_iff_getElem.mp (pairwise_places shapes) q p hqlt hplt h
    rw [hpx, hqy] at hno
    exact absurd hxy hno

/-- **The traversal order is a permutation that respects nesting.** It has as many entries as the
list has shapes and each place once, with the shape at that place; a shape that is no rectangle
stays where it is; and a rectangle comes before every rectangle whose box it strictly contains. The
sort of the rectangles never has to lower a count that is zero, and ends with nothing ready and all
rectangles taken. -/
theorem order_arranges (shapes : List (Shape Float)) :
    (order shapes).length = shapes.length ∧
    ((order shapes).map (·.1)).Perm (List.range shapes.length) ∧
    (∀ x ∈ order shapes, shapes[x.1]? = some x.2) ∧
    (∀ (i : Nat) (s : Shape Float), shapes[i]? = some s → s.kind ≠ .rectangle →
      (order shapes)[i]? = some (i, s)) ∧
    (∀ (p q : Nat) (x y : Nat × Shape Float) (b c : Bounds Float),
      (order shapes)[p]? = some x → (order shapes)[q]? = some y →
      x.2.geometry.nestingBox? = some b → y.2.geometry.nestingBox? = some c →
      b.strictlyContains c = true → p < q) ∧
    ∃ t, Sorting.drain (boxes shapes) shapes.length (.start (boxes shapes)) = some t ∧
      t.ready = [] ∧ t.taken = nesting shapes ∧
      t.taken.Perm ((shapes.zipIdx.filter fun p => p.1.kind = .rectangle).map (·.2)) := by
  refine ⟨?_, ?_, fun x hx => ?_, fun i s hs hk => ?_, ?_, ?_⟩
  · rw [← List.length_map (f := (·.1)), map_fst_order, (places_perm shapes).length_eq,
      List.length_range]
  · rw [map_fst_order]
    exact places_perm shapes
  · obtain ⟨k, hk⟩ := List.mem_iff_getElem?.mp hx
    exact (getElem?_order_eq_some.mp hk).2
  · have hno : ¬ isNesting (s, i) = true := by rwa [isNesting_iff]
    refine getElem?_order_eq_some.mpr ⟨?_, hs⟩
    exact getElem?_deal (p := (s, i)) (length_nesting shapes)
      (by simp [List.getElem?_zipIdx, hs]) hno
  · intro p q x y b c hx hy hb hc hbc
    exact lt_of_strictlyContains hx hy hb hc hbc
  · obtain ⟨t, ht, -, hr, hn⟩ := exists_sorting shapes
    have hfilter : (fun p : Shape Float × Nat => decide (p.1.kind = .rectangle)) = isNesting := by
      funext p
      rw [Bool.eq_iff_iff, decide_eq_true_iff, isNesting_iff]
    rw [boxes, List.length_map] at ht
    refine ⟨t, ht, hr, hn.symm, ?_⟩
    rw [hfilter, ← hn]
    exact nesting_perm shapes

-- The outer of two rectangles is dealt first, and the circle between them stays.
example : (order [
    { id := .nil, geometry := .rectangle ⟨0, 0⟩ (⟨1, 1⟩ : Point Float) },
    { id := .nil, geometry := .circle ⟨0, 0⟩ ⟨1, 1⟩ },
    { id := .nil, geometry := .rectangle ⟨0, 0⟩ ⟨2, 1⟩ }]).map (·.1) = [2, 1, 0] := rfl

end ShapeOverlay.Traversal
