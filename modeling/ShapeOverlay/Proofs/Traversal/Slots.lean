import ShapeOverlay.Proofs.Traversal.Greedy
import ShapeOverlay.Proofs.Traversal.Order

/-! # The slots of the rectangles

The nesting order is dealt into the slots that rectangles have in the list, so that a rectangle is
found at the slot whose `rank` is the number of rectangles before it in the nesting order
(`rank_eq_length`). For a rectangle that takes part in no nesting (`IsFree`) that number is known:
these are the rectangles before it in the list, but for those that have to wait for a rectangle
behind it (`heldBack`, `mem_before_iff`). So it never comes later in the traversal order than it
stands in the list, and comes earlier exactly if a nesting straddles it
(`free_rectangle_passes_held_back`). -/

namespace ShapeOverlay.Traversal

variable {α : Type} [Scalar α]

/-! ### Free rectangles -/

/-- What is at a place takes part in no nesting. -/
def IsFree (boxes : List (Option (Bounds α))) (i : Nat) : Prop :=
  ∀ j < boxes.length, ¬ encloses boxes i j = true ∧ ¬ encloses boxes j i = true

instance (boxes : List (Option (Bounds α))) (i : Nat) : Decidable (IsFree boxes i) := by
  unfold IsFree; infer_instance

/-- A rectangle behind one place strictly contains the one at another place. -/
def heldBack (boxes : List (Option (Bounds α))) (i j : Nat) : Bool :=
  (List.range boxes.length).any fun o => decide (i < o) && encloses boxes o j

section

variable {boxes : List (Option (Bounds α))}

theorem IsFree.not_encloses {i : Nat} (h : IsFree boxes i) (j : Nat) :
    ¬ encloses boxes i j = true :=
  fun hj => (h j (isRectangle_right hj).lt).1 hj

theorem IsFree.not_enclosed {i : Nat} (h : IsFree boxes i) (j : Nat) :
    ¬ encloses boxes j i = true :=
  fun hj => (h j (isRectangle_left hj).lt).2 hj

theorem heldBack_iff {i j : Nat} :
    heldBack boxes i j = true ↔ ∃ o, i < o ∧ encloses boxes o j = true := by
  simp only [heldBack, List.any_eq_true, List.mem_range, Bool.and_eq_true, decide_eq_true_eq]
  exact ⟨fun ⟨o, _, h⟩ => ⟨o, h⟩, fun ⟨o, h⟩ => ⟨o, (isRectangle_left h.2).lt, h⟩⟩

/-- What is strictly contained in something that is held back is held back. -/
theorem heldBack_of_encloses [OrderedScalar α] {i j k : Nat} (h : encloses boxes j k = true)
    (hj : heldBack boxes i j = true) : heldBack boxes i k = true := by
  obtain ⟨o, ho, hoj⟩ := heldBack_iff.mp hj
  exact heldBack_iff.mpr ⟨o, ho, encloses_trans hoj h⟩

end

variable [OrderedScalar α] {shapes : List (Shape α)}

/-- **The rectangles before a free one in the nesting order** are those before it in the list that
are not held back. -/
theorem mem_before_iff {i : Nat} {pre post : List Nat} (hi : IsFree (boxes shapes) i)
    (h : nesting shapes = pre ++ i :: post) {j : Nat} : j ∈ pre ↔
      IsRectangle (boxes shapes) j ∧ j < i ∧ ¬ heldBack (boxes shapes) i j = true := by
  have hgreedy := greedy_nesting shapes
  have hnodup := nodup_nesting shapes
  rw [h] at hgreedy hnodup
  have hfirst := hgreedy.isFirst
  have hpre : i ∉ pre := fun hmem => (List.nodup_append.mp hnodup).2.2 i hmem i (by simp) rfl
  have hlt : ∀ k ∈ pre, k < i := hgreedy.lt_of_mem hfirst.available.1 hi.not_enclosed (by simp) hpre
  constructor
  · intro hj
    have hmem : j ∈ nesting shapes := by simp [h, hj]
    rw [(nesting_perm shapes).mem_iff, mem_rectangles] at hmem
    refine ⟨hmem, hlt j hj, fun hback => ?_⟩
    obtain ⟨o, ho, hoj⟩ := heldBack_iff.mp hback
    have := hlt o (hgreedy.closed j hj o hoj)
    omega
  · rintro ⟨hrect, hji, hback⟩
    -- the containers of `j` are before `i` in the list and not held back, like `j` itself
    revert hji hback
    refine encloses_induction (P := fun j => j < i → ¬ heldBack (boxes shapes) i j = true → j ∈ pre)
      (fun j hrect ih hji hback => ?_) hrect
    by_contra hnot
    have hle := hfirst.le j ⟨hrect, hnot, fun o ho => ?_⟩
    · omega
    · refine ih o ho ?_ fun hoback => hback (heldBack_of_encloses ho hoback)
      rcases Nat.lt_trichotomy o i with hoi | rfl | hio
      · exact hoi
      · exact absurd ho (hi.not_encloses j)
      · exact absurd (heldBack_iff.mpr ⟨o, hio, ho⟩) hback

/-! ### Ranks -/

omit [OrderedScalar α] in
/-- How many rectangles a list has before a place. -/
def rank (shapes : List (Shape α)) (k : Nat) : Nat := (shapes.zipIdx.take k).countP isNesting

/-- How many rectangles a list has before a place that are not held back there. -/
def rankUnheld (shapes : List (Shape α)) (i : Nat) : Nat :=
  (shapes.zipIdx.take i).countP fun x => isNesting x && !heldBack (boxes shapes) i x.2

omit [Scalar α] [OrderedScalar α] in
theorem getElem?_zipIdx_eq {k : Nat} {s : Shape α} (h : shapes[k]? = some s) :
    shapes.zipIdx[k]? = some (s, k) := by
  simp [List.getElem?_zipIdx, h]

omit [Scalar α] [OrderedScalar α] in
theorem mem_take_zipIdx {k : Nat} {x : Shape α × Nat} :
    x ∈ shapes.zipIdx.take k ↔ shapes[x.2]? = some x.1 ∧ x.2 < k := by
  rw [List.mem_take_iff_getElem]
  constructor
  · rintro ⟨j, hj, rfl⟩
    simp at hj
    simp [hj]
  · rintro ⟨hx, hlt⟩
    have hlen := (List.getElem?_eq_some_iff.mp hx).1
    exact ⟨x.2, by simp [hlt, hlen], (List.getElem?_eq_some_iff.mp (getElem?_zipIdx_eq hx)).2⟩

omit [OrderedScalar α] in
theorem rank_mono {j k : Nat} (h : j ≤ k) : rank shapes j ≤ rank shapes k :=
  (List.take_sublist_take_left h).countP_le

omit [OrderedScalar α] in
/-- The slot of a rectangle has a lower rank than every place behind it. -/
theorem rank_lt_iff {j k : Nat} (hj : IsRectangle (boxes shapes) j) :
    rank shapes j < rank shapes k ↔ j < k := by
  constructor
  · intro h
    by_contra hle
    have hmono : rank shapes k ≤ rank shapes j := rank_mono (Nat.not_lt.mp hle)
    omega
  · intro h
    obtain ⟨s, hs, hnest⟩ := isRectangle_boxes.mp hj
    have hsucc : rank shapes (j + 1) = rank shapes j + 1 := by
      rw [rank, List.take_add_one, getElem?_zipIdx_eq hs, List.countP_append, Option.toList_some,
        List.countP_singleton, if_pos hnest, rank]
    have hle : rank shapes (j + 1) ≤ rank shapes k := rank_mono h
    omega

omit [OrderedScalar α] in
theorem rankUnheld_le (shapes : List (Shape α)) (i : Nat) : rankUnheld shapes i ≤ rank shapes i :=
  List.countP_mono_left fun _ _ h => (Bool.and_eq_true_iff.mp h).1

omit [OrderedScalar α] in
/-- All rectangles before a place count if none is held back there. -/
theorem rankUnheld_eq_iff {i : Nat} : rankUnheld shapes i = rank shapes i ↔
    ∀ j < i, ¬ heldBack (boxes shapes) i j = true := by
  have hsplit := List.countP_eq_countP_filter_add (shapes.zipIdx.take i) isNesting
    fun x => !heldBack (boxes shapes) i x.2
  rw [List.countP_filter, List.countP_filter] at hsplit
  have hzero : rankUnheld shapes i = rank shapes i ↔
      (shapes.zipIdx.take i).countP
        (fun x => isNesting x && !!heldBack (boxes shapes) i x.2) = 0 := by
    unfold rankUnheld rank
    omega
  rw [hzero, List.countP_eq_zero]
  constructor
  · intro h j hji hback
    obtain ⟨o, -, ho⟩ := heldBack_iff.mp hback
    obtain ⟨s, hs, hnest⟩ := isRectangle_boxes.mp (isRectangle_right ho)
    exact h (s, j) (mem_take_zipIdx.mpr ⟨hs, hji⟩) (by simp [hnest, hback])
  · intro h x hx hback
    rw [Bool.and_eq_true, Bool.not_not] at hback
    exact h x.2 (mem_take_zipIdx.mp hx).2 hback.2

/-- A rectangle is found at the slot that has as many rectangles before it as the rectangle has
before it in the nesting order. -/
theorem rank_eq_length {p i : Nat} {pre post : List Nat} (h : nesting shapes = pre ++ i :: post)
    (hp : (places shapes)[p]? = some i) (hi : IsRectangle (boxes shapes) i) :
    IsRectangle (boxes shapes) p ∧ rank shapes p = pre.length := by
  have hlt : p < shapes.length := by
    have := (List.getElem?_eq_some_iff.mp hp).1
    rwa [(places_perm shapes).length_eq, List.length_range] at this
  have hs := List.getElem?_eq_getElem hlt
  by_cases hnest : isNesting (shapes[p], p) = true
  · refine ⟨isRectangle_boxes.mpr ⟨_, hs, hnest⟩, ?_⟩
    have hslot := getElem?_deal_of_isNesting (length_nesting shapes) (getElem?_zipIdx_eq hs) hnest
    rw [← places, hp] at hslot
    have hi' : (nesting shapes)[pre.length]? = some i := by simp [h]
    have hlen : pre.length < (nesting shapes).length := by simp [h]
    exact ((List.getElem?_inj hlen (nodup_nesting shapes)).mp (hi'.trans hslot)).symm
  · have hown := getElem?_deal (length_nesting shapes) (getElem?_zipIdx_eq hs) hnest
    rw [← places, hp, Option.some.injEq] at hown
    obtain ⟨s, hs', hnest'⟩ := isRectangle_boxes.mp hi
    rw [hown, hs, Option.some.injEq] at hs'
    rw [hown, ← hs'] at hnest'
    exact absurd hnest' hnest

omit [OrderedScalar α] in
/-- The places of the rectangles before a place that are not held back there. -/
def unheld (shapes : List (Shape α)) (i : Nat) : List Nat :=
  ((shapes.zipIdx.take i).filter fun x => isNesting x && !heldBack (boxes shapes) i x.2).map (·.2)

omit [OrderedScalar α] in
theorem length_unheld (shapes : List (Shape α)) (i : Nat) :
    (unheld shapes i).length = rankUnheld shapes i := by
  rw [unheld, List.length_map, rankUnheld, List.countP_eq_length_filter]

omit [OrderedScalar α] in
theorem nodup_unheld (shapes : List (Shape α)) (i : Nat) : (unheld shapes i).Nodup := by
  refine ((List.filter_sublist.trans (List.take_sublist i _)).map _).nodup ?_
  rw [map_snd_zipIdx]
  exact List.nodup_range

omit [OrderedScalar α] in
theorem mem_unheld {i j : Nat} : j ∈ unheld shapes i ↔
    IsRectangle (boxes shapes) j ∧ j < i ∧ ¬ heldBack (boxes shapes) i j = true := by
  rw [unheld, List.mem_map, isRectangle_boxes]
  constructor
  · rintro ⟨x, hx, rfl⟩
    obtain ⟨hx, hcount⟩ := List.mem_filter.mp hx
    obtain ⟨hs, hlt⟩ := mem_take_zipIdx.mp hx
    rw [Bool.and_eq_true, Bool.not_eq_true', ← Bool.not_eq_true] at hcount
    exact ⟨⟨x.1, hs, hcount.1⟩, hlt, hcount.2⟩
  · rintro ⟨⟨s, hs, hnest⟩, hji, hback⟩
    refine ⟨(s, j), List.mem_filter.mpr ⟨mem_take_zipIdx.mpr ⟨hs, hji⟩, ?_⟩, rfl⟩
    simp [hnest, hback]

/-- **The slot of a free rectangle** has as many rectangles before it as stand before the rectangle
in the list and are not held back there. -/
theorem rank_of_isFree {p i : Nat} (hi : IsFree (boxes shapes) i)
    (hrect : IsRectangle (boxes shapes) i) (hp : (places shapes)[p]? = some i) :
    IsRectangle (boxes shapes) p ∧ rank shapes p = rankUnheld shapes i := by
  have hmem : i ∈ nesting shapes := by rwa [(nesting_perm shapes).mem_iff, mem_rectangles]
  obtain ⟨pre, post, h⟩ := List.append_of_mem hmem
  obtain ⟨hslot, hrank⟩ := rank_eq_length h hp hrect
  have hpre : pre.Nodup := by
    have hnodup := nodup_nesting shapes
    rw [h] at hnodup
    exact (List.nodup_append.mp hnodup).1
  have hperm : pre.Perm (unheld shapes i) :=
    (List.perm_ext_iff_of_nodup hpre (nodup_unheld shapes i)).mpr fun j =>
      (mem_before_iff hi h).trans mem_unheld.symm
  exact ⟨hslot, by rw [hrank, hperm.length_eq, length_unheld]⟩

/-! ### Free rectangles in the traversal order -/

/-- A shape stands at one place of the traversal order only. -/
theorem getElem?_order_inj {p q : Nat} {x : Nat × Shape α} (hp : (order shapes)[p]? = some x) :
    (order shapes)[q]? = some x ↔ q = p := by
  have hnodup : (places shapes).Nodup := (places_perm shapes).nodup_iff.mpr List.nodup_range
  obtain ⟨hpi, hx⟩ := getElem?_order_eq_some.mp hp
  constructor
  · intro hq
    have hqi := (getElem?_order_eq_some.mp hq).1
    have hlt := (List.getElem?_eq_some_iff.mp hqi).1
    exact (List.getElem?_inj hlt hnodup).mp (hqi.trans hpi.symm)
  · rintro rfl
    exact hp

/-- **Free rectangles and the other shapes in the traversal order.** A polygon or circle stands
where it does in the list. A rectangle that takes part in no nesting never stands behind its own
place, and at its own place exactly if no rectangle before it is held back by one behind it; then it
and the polygon or circle come in the order of the list. In general the rectangle comes first
exactly if there are fewer rectangles before it that are not held back than rectangles before the
polygon or circle. -/
theorem free_rectangle_passes_held_back (shapes : List (Shape Float)) (i k : Nat)
    (r g : Shape Float) (hr : shapes[i]? = some r) (hkind : r.kind = .rectangle)
    (hfree : IsFree (boxes shapes) i) (hg : shapes[k]? = some g) (hother : g.kind ≠ .rectangle) :
    ∃ p, (∀ q, (order shapes)[q]? = some (i, r) ↔ q = p) ∧
      (∀ q, (order shapes)[q]? = some (k, g) ↔ q = k) ∧ p ≤ i ∧
      (p = i ↔ ∀ j < i, ¬ heldBack (boxes shapes) i j = true) ∧
      ((∀ j < i, ¬ heldBack (boxes shapes) i j = true) → (p < k ↔ i < k)) ∧
      (p < k ↔ rankUnheld shapes i < rank shapes k) := by
  have hrect : IsRectangle (boxes shapes) i :=
    isRectangle_boxes.mpr ⟨r, hr, isNesting_iff.mpr hkind⟩
  have hmem : i ∈ places shapes :=
    (places_perm shapes).mem_iff.mpr (List.mem_range.mpr (lt_of_isRectangle hrect))
  obtain ⟨p, hp⟩ := List.mem_iff_getElem?.mp hmem
  obtain ⟨hslot, hrank⟩ := rank_of_isFree hfree hrect hp
  have hpr : (order shapes)[p]? = some (i, r) := getElem?_order_eq_some.mpr ⟨hp, hr⟩
  have hkg : (order shapes)[k]? = some (k, g) :=
    getElem?_order_eq_some.mpr ⟨getElem?_deal (length_nesting shapes) (getElem?_zipIdx_eq hg)
      (mt isNesting_iff.mp hother), hg⟩
  have hle : p ≤ i := by
    have := rankUnheld_le shapes i
    have := rank_lt_iff (k := p) hrect
    omega
  have hown : p = i ↔ ∀ j < i, ¬ heldBack (boxes shapes) i j = true := by
    rw [← rankUnheld_eq_iff, ← hrank]
    have := rank_lt_iff (k := i) hslot
    constructor
    · rintro rfl
      rfl
    · omega
  refine ⟨p, fun _ => getElem?_order_inj hpr, fun _ => getElem?_order_inj hkg, hle, hown,
    fun h => by rw [hown.mpr h], ?_⟩
  rw [← hrank, rank_lt_iff hslot]

/-- A rectangle passes a circle as another one, before both, is held back by a third one, behind
both. -/
theorem free_rectangle_passes_circle :
    let circle : Shape Float := { id := .nil, geometry := .circle ⟨5, 5⟩ ⟨6, 6⟩ }
    let free : Shape Float := { id := .nil, geometry := .rectangle ⟨6, 6⟩ ⟨7, 7⟩ }
    let shapes : List (Shape Float) := [
      { id := .nil, geometry := .rectangle ⟨2, 2⟩ ⟨3, 3⟩ }, circle, free,
      { id := .nil, geometry := .rectangle ⟨1, 1⟩ ⟨4, 4⟩ }]
    IsFree (boxes shapes) 2 ∧ heldBack (boxes shapes) 2 0 = true ∧
      ∃ p, (∀ q, (order shapes)[q]? = some (2, free) ↔ q = p) ∧
        (∀ q, (order shapes)[q]? = some (1, circle) ↔ q = 1) ∧ p < 1 := by
  intro circle free shapes
  have hfree : IsFree (boxes shapes) 2 := by decide
  obtain ⟨p, hp, hcircle, -, -, -, hlt⟩ := free_rectangle_passes_held_back shapes 2 1 free circle
    rfl rfl hfree rfl (by decide)
  exact ⟨hfree, by decide, p, hp, hcircle, hlt.mpr (by decide)⟩

/-- So a rectangle that takes part in no nesting does not always come in the order of the list with
the polygons and circles. -/
theorem free_rectangle_out_of_order :
    ¬ ∀ (shapes : List (Shape Float)) (i k p q : Nat) (r g : Shape Float),
      shapes[i]? = some r → r.kind = .rectangle → IsFree (boxes shapes) i →
      shapes[k]? = some g → g.kind ≠ .rectangle →
      (order shapes)[p]? = some (i, r) → (order shapes)[q]? = some (k, g) →
      (p < q ↔ i < k) := by
  intro h
  have hlt := h [
    { id := .nil, geometry := .rectangle ⟨2, 2⟩ ⟨3, 3⟩ },
    { id := .nil, geometry := .circle ⟨5, 5⟩ ⟨6, 6⟩ },
    { id := .nil, geometry := .rectangle ⟨6, 6⟩ ⟨7, 7⟩ },
    { id := .nil, geometry := .rectangle ⟨1, 1⟩ ⟨4, 4⟩ }] 2 1 0 1 _ _ rfl rfl (by decide) rfl
    (by decide) rfl rfl
  omega

end ShapeOverlay.Traversal
