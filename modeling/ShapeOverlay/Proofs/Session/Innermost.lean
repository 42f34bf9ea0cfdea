import ShapeOverlay.Proofs.Session.Detection

/-! # The innermost shape under the pointer

Detection selects the last entry of the traversal order that is under the point (`IsUnder`), and so
misses no shape that is (`shapeAt?_eq_some_iff`). As the order has every rectangle behind those that
strictly contain it (`pairwise_order`), no rectangle under the point is nested in the one that is
selected (`not_nests_of_split`). Of rectangles nested in one chain this leaves the innermost only,
in whatever order they stand in the list (`nests_of_isChain`). -/

namespace ShapeOverlay.Detection

open Traversal

variable {α : Type} [Scalar α]

/-- The shape is active and its bounding box contains the point. -/
def IsUnder (v : Viewport α) (p : Point α) (s : Shape α) : Prop :=
  s.isActive = true ∧ ∃ b, s.geometry.bounds? v = some b ∧ b.containsPoint p = true

/-- Both shapes are rectangles, and the box of the one strictly contains that of the other. -/
def Nests (outer inner : Shape α) : Prop :=
  ∃ b c, outer.geometry.nestingBox? = some b ∧ inner.geometry.nestingBox? = some c ∧
    b.strictlyContains c = true

/-- The shapes under the point are rectangles nested in one chain. -/
def IsChain (v : Viewport α) (p : Point α) (shapes : List (Shape α)) : Prop :=
  shapes.Pairwise fun s t => IsUnder v p s → IsUnder v p t → Nests s t ∨ Nests t s

variable {v : Viewport α} {p : Point α} {shapes : List (Shape α)}

theorem isUnder_iff {s : Shape α} :
    IsUnder v p s ↔ (s.isActive && s.geometry.contains v p) = true := by
  rw [IsUnder, Bool.and_eq_true, Geometry.contains, Option.any_eq_true]

theorem IsChain.perm {others : List (Shape α)} (h : IsChain v p shapes)
    (hperm : others.Perm shapes) : IsChain v p others :=
  (hperm.pairwise_iff fun hst ht hs => (hst hs ht).symm).mpr h

variable [OrderedScalar α]

theorem not_nests_self (s : Shape α) : ¬ Nests s s := by
  rintro ⟨b, c, hb, hc, hbc⟩
  rw [hb, Option.some.injEq] at hc
  exact Bounds.strictlyContains_irrefl b (hc ▸ hbc)

/-! ### The traversal order -/

theorem mem_order_iff {x : Nat × Shape α} : x ∈ order shapes ↔ shapes[x.1]? = some x.2 := by
  constructor
  · intro hx
    obtain ⟨k, hk⟩ := List.mem_iff_getElem?.mp hx
    exact (getElem?_order_eq_some.mp hk).2
  · intro hx
    have hlt := (List.getElem?_eq_some_iff.mp hx).1
    have hmem := (places_perm shapes).mem_iff.mpr (List.mem_range.mpr hlt)
    obtain ⟨k, hk⟩ := List.mem_iff_getElem?.mp hmem
    exact List.mem_iff_getElem?.mpr ⟨k, getElem?_order_eq_some.mpr ⟨hk, hx⟩⟩

theorem mem_iff_mem_order {s : Shape α} : s ∈ shapes ↔ ∃ i, (i, s) ∈ order shapes := by
  rw [List.mem_iff_getElem?]
  exact exists_congr fun i => (mem_order_iff (x := (i, s))).symm

theorem getElem?_of_split {i : Nat} {s : Shape α} {before after : List (Nat × Shape α)}
    (hsplit : order shapes = before ++ (i, s) :: after) : shapes[i]? = some s := by
  have hmem : (i, s) ∈ order shapes := by simp [hsplit]
  exact mem_order_iff.mp hmem

/-- **No shape stands before one in which it is nested.** -/
theorem pairwise_order (shapes : List (Shape α)) :
    (order shapes).Pairwise fun x y => ¬ Nests y.2 x.2 := by
  rw [List.pairwise_iff_getElem]
  rintro k l hk hl hkl ⟨b, c, hb, hc, hbc⟩
  have hlk := lt_of_strictlyContains (List.getElem?_eq_getElem hl) (List.getElem?_eq_getElem hk)
    hb hc hbc
  omega

/-! ### What is selected -/

omit [OrderedScalar α] in
/-- **Detection selects the last entry of the traversal order that is under the point.** -/
theorem shapeAt?_eq_some_iff {i : Nat} : shapeAt? shapes p v = some i ↔
    ∃ s before after, order shapes = before ++ (i, s) :: after ∧ IsUnder v p s ∧
      ∀ x ∈ after, ¬ IsUnder v p x.2 := by
  simp only [isUnder_iff, shapeAt?, Option.map_eq_some_iff]
  constructor
  · rintro ⟨⟨j, s⟩, hfind, rfl⟩
    obtain ⟨hs, after, before, hsplit, hafter⟩ := List.find?_eq_some_iff_append.mp hfind
    refine ⟨s, before.reverse, after.reverse, ?_, hs, fun x hx => ?_⟩
    · rw [← List.reverse_reverse (order shapes), hsplit]
      simp
    · simpa only [Bool.not_eq_true', Bool.not_eq_true] using hafter x (List.mem_reverse.mp hx)
  · rintro ⟨s, before, after, hsplit, hs, hafter⟩
    refine ⟨(i, s), List.find?_eq_some_iff_append.mpr
      ⟨hs, after.reverse, before.reverse, ?_, fun x hx => ?_⟩, rfl⟩
    · rw [hsplit]
      simp
    · simpa only [Bool.not_eq_true', Bool.not_eq_true] using hafter x (List.mem_reverse.mp hx)

theorem shapeAt?_eq_none_iff_forall :
    shapeAt? shapes p v = none ↔ ∀ s ∈ shapes, ¬ IsUnder v p s := by
  simp only [isUnder_iff, shapeAt?, Option.map_eq_none_iff, List.find?_eq_none, List.mem_reverse]
  constructor
  · intro h s hs
    obtain ⟨i, hi⟩ := mem_iff_mem_order.mp hs
    exact h (i, s) hi
  · intro h x hx
    exact h x.2 (mem_iff_mem_order.mpr ⟨x.1, hx⟩)

/-- **No shape under the point is nested in the one that is selected.** -/
theorem not_nests_of_split {i : Nat} {s t : Shape α} {before after : List (Nat × Shape α)}
    (hsplit : order shapes = before ++ (i, s) :: after) (hafter : ∀ x ∈ after, ¬ IsUnder v p x.2)
    (ht : t ∈ shapes) (hunder : IsUnder v p t) : ¬ Nests s t := by
  obtain ⟨j, hj⟩ := mem_iff_mem_order.mp ht
  have hpair := pairwise_order shapes
  rw [hsplit] at hj hpair
  rcases List.mem_append.mp hj with hj | hj
  · exact (List.pairwise_append.mp hpair).2.2 (j, t) hj (i, s) List.mem_cons_self
  rcases List.mem_cons.mp hj with hj | hj
  · cases hj
    exact not_nests_self s
  · exact absurd hunder (hafter (j, t) hj)

/-- In a chain the selected shape is nested in every other shape under the point. -/
theorem nests_of_isChain (hchain : IsChain v p shapes) {i j : Nat} {s t : Shape α}
    (hi : shapeAt? shapes p v = some i) (hs : shapes[i]? = some s) (ht : shapes[j]? = some t)
    (hij : j ≠ i) (hunder : IsUnder v p t) : Nests t s := by
  obtain ⟨s', before, after, hsplit, hsunder, hafter⟩ := shapeAt?_eq_some_iff.mp hi
  obtain rfl : s = s' := Option.some.inj (hs.symm.trans (getElem?_of_split hsplit))
  have hnot := not_nests_of_split hsplit hafter (List.mem_of_getElem? ht) hunder
  obtain ⟨hilt, rfl⟩ := List.getElem?_eq_some_iff.mp hs
  obtain ⟨hjlt, rfl⟩ := List.getElem?_eq_some_iff.mp ht
  have hpair := List.pairwise_iff_getElem.mp hchain
  rcases Nat.lt_or_gt_of_ne hij with hlt | hlt
  · exact (hpair j i hjlt hilt hlt hunder hsunder).resolve_right hnot
  · exact (hpair i j hilt hjlt hlt hsunder hunder).resolve_left hnot

/-- **Detection misses nothing and selects the innermost.** It finds nothing exactly if no active
shape has a bounding box that contains the point. Otherwise it selects the last such shape in
traversal order, and no other such shape is nested in it. If all of them are rectangles nested in
one chain, it selects the one that is nested in all others, in whatever order they are listed. -/
theorem selects_innermost (d : Detection) (shapes : List (Shape Float)) (p : Point Float)
    (v : Viewport Float) :
    ((d.pointerMove shapes p v).selected = none ↔ ∀ s ∈ shapes, ¬ IsUnder v p s) ∧
    (∀ i, (d.pointerMove shapes p v).selected = some i →
      ∃ s before after, shapes[i]? = some s ∧ IsUnder v p s ∧
        order shapes = before ++ (i, s) :: after ∧ (∀ x ∈ after, ¬ IsUnder v p x.2) ∧
        ∀ t ∈ shapes, IsUnder v p t → ¬ Nests s t) ∧
    (IsChain v p shapes → ∀ listed : List (Shape Float), listed.Perm shapes →
      ∀ i, (d.pointerMove listed p v).selected = some i → ∃ s, listed[i]? = some s ∧
        IsUnder v p s ∧ ∀ j t, listed[j]? = some t → j ≠ i → IsUnder v p t → Nests t s) := by
  refine ⟨shapeAt?_eq_none_iff_forall, fun i hi => ?_, fun hchain listed hperm i hi => ?_⟩
  · obtain ⟨s, before, after, hsplit, hunder, hafter⟩ := shapeAt?_eq_some_iff.mp hi
    exact ⟨s, before, after, getElem?_of_split hsplit, hunder, hsplit, hafter,
      fun t ht htunder => not_nests_of_split hsplit hafter ht htunder⟩
  · obtain ⟨s, before, after, hsplit, hunder, -⟩ := shapeAt?_eq_some_iff.mp hi
    have hs := getElem?_of_split hsplit
    exact ⟨s, hs, hunder, fun j t ht hji htunder =>
      nests_of_isChain (hchain.perm hperm) hi hs ht hji htunder⟩

end ShapeOverlay.Detection
