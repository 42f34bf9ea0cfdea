import ShapeOverlay.Proofs.Traversal.Greedy
import ShapeOverlay.Proofs.Traversal.Order

/-! # Lists with shapes left out

`remaining` is a list of shapes with some of them left out, and `origins` are the places that those
which are left have in the whole list. Their boxes are the same in both lists
(`getElem?_boxes_remaining`), and so is which of them strictly contains which
(`encloses_remaining`). So the two nesting orders agree on rectangles that are left together with
all their containers (`filter_nesting_remaining`), and the two traversal orders agree on what is
left

* if all rectangles are left (`filter_places_of_rectangles`);
* if no rectangle stands before one that strictly contains it (`filter_places_of_nested`).

Among each other, the rectangles stand in the traversal order as in the nesting order
(`filter_places_rectangles`), and the other shapes as in the list (`filter_places_others`). -/

namespace ShapeOverlay.Traversal

variable {α : Type}

/-! ### What is left -/

/-- The shapes that are left of a list, in order. -/
def remaining (shapes : List (Shape α)) (keep : Shape α × Nat → Bool) : List (Shape α) :=
  (shapes.zipIdx.filter keep).map (·.1)

/-- The places in the whole list of the shapes that are left. -/
def origins (shapes : List (Shape α)) (keep : Shape α × Nat → Bool) : List Nat :=
  (shapes.zipIdx.filter keep).map (·.2)

/-- The place in the whole list of the shape at a place of what is left. -/
def origin (shapes : List (Shape α)) (keep : Shape α × Nat → Bool) (k : Nat) : Nat :=
  (origins shapes keep).getD k 0

variable {shapes : List (Shape α)} {keep : Shape α × Nat → Bool}

theorem length_origins : (origins shapes keep).length = (remaining shapes keep).length := by
  simp [origins, remaining]

theorem getElem?_origins {k : Nat} (hk : k < (remaining shapes keep).length) :
    (origins shapes keep)[k]? = some (origin shapes keep k) := by
  rw [← length_origins] at hk
  simp [origin, hk]

theorem mem_origins {i : Nat} :
    i ∈ origins shapes keep ↔ ∃ s, shapes[i]? = some s ∧ keep (s, i) = true := by
  constructor
  · intro hi
    obtain ⟨⟨s, k⟩, hp, rfl⟩ := List.mem_map.mp hi
    obtain ⟨hp, hkeep⟩ := List.mem_filter.mp hp
    exact ⟨s, List.mem_zipIdx_iff_getElem?.mp hp, hkeep⟩
  · rintro ⟨s, hs, hkeep⟩
    exact List.mem_map.mpr
      ⟨(s, i), List.mem_filter.mpr ⟨List.mem_zipIdx_iff_getElem?.mpr hs, hkeep⟩, rfl⟩

/-- A shape with a property is left if none with the property is left out. -/
theorem mem_origins_of_forall {P : Shape α → Prop}
    (hdrop : ∀ x ∈ shapes.zipIdx, keep x = false → ¬ P x.1) {s : Shape α} {i : Nat}
    (hs : shapes[i]? = some s) (hP : P s) : i ∈ origins shapes keep := by
  refine mem_origins.mpr ⟨s, hs, ?_⟩
  by_contra hno
  have hmem : (s, i) ∈ shapes.zipIdx := List.mem_zipIdx_iff_getElem?.mpr hs
  exact hdrop (s, i) hmem (by simpa using hno) hP

theorem decide_mem_origins {p : Shape α × Nat} (hp : p ∈ shapes.zipIdx) :
    decide (p.2 ∈ origins shapes keep) = keep p := by
  rw [List.mem_zipIdx_iff_getElem?] at hp
  rw [Bool.eq_iff_iff, decide_eq_true_iff, mem_origins, hp]
  simp

theorem pairwise_origins : (origins shapes keep).Pairwise (· < ·) := by
  refine List.Pairwise.sublist (List.filter_sublist.map _) ?_
  rw [map_snd_zipIdx]
  exact List.pairwise_lt_range

theorem map_origin_range :
    (List.range (remaining shapes keep).length).map (origin shapes keep) =
      origins shapes keep := by
  refine List.ext_getElem (by simp [length_origins]) fun k h1 h2 => ?_
  simp [origin, h2]

/-- The shape at a place of what is left is the one at its origin. -/
theorem getElem?_remaining {k : Nat} (hk : k < (remaining shapes keep).length) :
    (remaining shapes keep)[k]? = shapes[origin shapes keep k]? := by
  have hpair : k < (shapes.zipIdx.filter keep).length := by simpa [remaining] using hk
  have hmem := (List.mem_filter.mp (List.getElem_mem hpair)).1
  rw [List.mem_zipIdx_iff_getElem?] at hmem
  have horigin : origin shapes keep k = (shapes.zipIdx.filter keep)[k].2 := by
    simp [origin, origins, hpair]
  rw [horigin, hmem]
  simp [remaining, hpair]

theorem origin_lt {j k : Nat} (hk : k < (remaining shapes keep).length) (h : j < k) :
    origin shapes keep j < origin shapes keep k := by
  rw [← length_origins] at hk
  have hasc : (origins shapes keep).Pairwise (· < ·) := pairwise_origins
  have hlt := List.pairwise_iff_getElem.mp hasc j k (h.trans hk) hk h
  simpa [origin, hk, h.trans hk] using hlt

theorem origin_inj {j k : Nat} (hj : j < (remaining shapes keep).length)
    (hk : k < (remaining shapes keep).length) :
    origin shapes keep j = origin shapes keep k ↔ j = k := by
  constructor
  · intro heq
    rcases Nat.lt_trichotomy j k with hlt | rfl | hlt
    · have := origin_lt hk hlt
      omega
    · rfl
    · have := origin_lt hj hlt
      omega
  · rintro rfl
    rfl

theorem filter_range_origins :
    (List.range shapes.length).filter (fun i => decide (i ∈ origins shapes keep)) =
      (List.range (remaining shapes keep).length).map (origin shapes keep) := by
  rw [map_origin_range, ← map_snd_zipIdx, List.filter_map, origins]
  exact congrArg _ (List.filter_congr fun _ => decide_mem_origins)

theorem exists_origin {i : Nat} (hi : i ∈ origins shapes keep) :
    ∃ k < (remaining shapes keep).length, origin shapes keep k = i := by
  rw [← map_origin_range] at hi
  obtain ⟨k, hk, rfl⟩ := List.mem_map.mp hi
  exact ⟨k, List.mem_range.mp hk, rfl⟩

theorem origin_mem {k : Nat} (hk : k < (remaining shapes keep).length) :
    origin shapes keep k ∈ origins shapes keep :=
  List.mem_of_getElem? (getElem?_origins hk)

/-- What is left, with the places in the whole list. -/
theorem filter_zipIdx : shapes.zipIdx.filter keep =
    (remaining shapes keep).zipIdx.map fun p => (p.1, origin shapes keep p.2) := by
  refine List.ext_getElem (by simp [remaining]) fun k h1 h2 => ?_
  have horigin : origin shapes keep k = (shapes.zipIdx.filter keep)[k].2 := by
    simp [origin, origins, h1]
  simp [horigin, remaining]

/-! ### Boxes -/

variable [Scalar α]

theorem getElem?_boxes_remaining {k : Nat} (hk : k < (remaining shapes keep).length) :
    (boxes (remaining shapes keep))[k]? = (boxes shapes)[origin shapes keep k]? := by
  rw [boxes, boxes, List.getElem?_map, List.getElem?_map, getElem?_remaining hk]

theorem isRectangle_remaining {k : Nat} (hk : k < (remaining shapes keep).length) :
    IsRectangle (boxes (remaining shapes keep)) k ↔
      IsRectangle (boxes shapes) (origin shapes keep k) := by
  rw [IsRectangle, IsRectangle, getElem?_boxes_remaining hk]

theorem encloses_remaining {j k : Nat} (hj : j < (remaining shapes keep).length)
    (hk : k < (remaining shapes keep).length) :
    encloses (boxes (remaining shapes keep)) j k =
      encloses (boxes shapes) (origin shapes keep j) (origin shapes keep k) := by
  rw [Bool.eq_iff_iff, encloses_iff, encloses_iff, getElem?_boxes_remaining hj,
    getElem?_boxes_remaining hk, ne_eq, ne_eq, origin_inj hj hk]

/-! ### The nesting order -/

/-- Rectangles that are left together with all their containers are numbered anew. -/
theorem renumbers_origin {M : Nat → Bool}
    (hM : ∀ i o, M i = true → encloses (boxes shapes) o i = true → M o = true)
    (hkept : ∀ i, IsRectangle (boxes shapes) i → M i = true → i ∈ origins shapes keep) :
    Renumbers (origin shapes keep)
      (fun k => IsRectangle (boxes (remaining shapes keep)) k ∧ M (origin shapes keep k) = true)
      (fun o i => encloses (boxes (remaining shapes keep)) o i = true)
      (fun i => IsRectangle (boxes shapes) i ∧ M i = true)
      (fun o i => encloses (boxes shapes) o i = true) where
  lt j k _ hk h := origin_lt (lt_of_isRectangle hk.1) h
  onto i := by
    constructor
    · rintro ⟨hi, hMi⟩
      obtain ⟨k, hk, rfl⟩ := exists_origin (hkept i hi hMi)
      exact ⟨k, ⟨(isRectangle_remaining hk).mpr hi, hMi⟩, rfl⟩
    · rintro ⟨k, ⟨hk, hMk⟩, rfl⟩
      exact ⟨(isRectangle_remaining (lt_of_isRectangle hk)).mp hk, hMk⟩
  before o i hi ho := by
    have hrect := isRectangle_left ho
    rw [encloses_remaining (lt_of_isRectangle hrect) (lt_of_isRectangle hi.1)] at ho
    exact ⟨hrect, hM _ _ hi.2 ho⟩
  before' o i hi ho := ⟨isRectangle_left ho, hM i o hi.2 ho⟩
  iff j k hj hk := by
    rw [encloses_remaining (lt_of_isRectangle hj.1) (lt_of_isRectangle hk.1)]

/-- **The nesting orders agree on rectangles that are left together with all their containers.** -/
theorem filter_nesting_remaining [OrderedScalar α] {M : Nat → Bool}
    (hM : ∀ i o, M i = true → encloses (boxes shapes) o i = true → M o = true)
    (hkept : ∀ i, IsRectangle (boxes shapes) i → M i = true → i ∈ origins shapes keep) :
    (nesting shapes).filter M =
      ((nesting (remaining shapes keep)).filter fun k => M (origin shapes keep k)).map
        (origin shapes keep) := by
  have hclosed : ∀ i o, M (origin shapes keep i) = true →
      encloses (boxes (remaining shapes keep)) o i = true → M (origin shapes keep o) = true := by
    intro i o hi ho
    have hlt := lt_of_isRectangle (isRectangle_left ho)
    rw [encloses_remaining hlt (lt_of_isRectangle (isRectangle_right ho))] at ho
    exact hM _ _ hi ho
  have hwhole := (greedy_nesting shapes).filter hM
  have hleft := (greedy_nesting (remaining shapes keep)).filter
    (K := fun k => M (origin shapes keep k)) hclosed
  exact hwhole.unique (hleft.map (renumbers_origin hM hkept) (by simp))

/-! ### The traversal order -/

/-- Dealing goes along with a renumbering of the places. -/
theorem deal_map (φ : Nat → Nat) : ∀ (next : List Nat) (l : List (Shape α × Nat)),
    deal (next.map φ) (l.map fun p => (p.1, φ p.2)) = (deal next l).map φ
  | next, [] => by cases next <;> rfl
  | next, p :: l => by
    rw [List.map_cons]
    by_cases hp : isNesting p = true
    · have hp' : isNesting (p.1, φ p.2) = true := hp
      cases next with
      | nil =>
        have ih := deal_map φ [] l
        rw [List.map_nil] at ih
        rw [deal_nil_of_isNesting hp, List.map_nil, deal_nil_of_isNesting hp', ih]
      | cons j next =>
        rw [deal_of_isNesting hp, List.map_cons, deal_of_isNesting hp', deal_map φ next l,
          List.map_cons]
    · have hp' : ¬ isNesting (p.1, φ p.2) = true := hp
      rw [deal_of_not_isNesting hp, deal_of_not_isNesting hp', deal_map φ next l, List.map_cons]

/-- Leaving out shapes that are no rectangles leaves out their places and no others. -/
theorem filter_deal {K : Nat → Bool} : ∀ {next : List Nat} {l : List (Shape α × Nat)},
    (∀ j ∈ next, K j = true) → (∀ p ∈ l, isNesting p = true → keep p = true) →
    (∀ p ∈ l, K p.2 = keep p) → (deal next l).filter K = deal next (l.filter keep)
  | next, [], _, _, _ => by cases next <;> rfl
  | next, p :: l, hnext, hrect, hK => by
    have hrect' : ∀ q ∈ l, isNesting q = true → keep q = true :=
      fun q hq => hrect q (List.mem_cons_of_mem p hq)
    have hK' : ∀ q ∈ l, K q.2 = keep q := fun q hq => hK q (List.mem_cons_of_mem p hq)
    by_cases hp : isNesting p = true
    · rw [List.filter_cons_of_pos (hrect p List.mem_cons_self hp)]
      cases next with
      | nil => rw [deal_nil_of_isNesting hp, deal_nil_of_isNesting hp, filter_deal hnext hrect' hK']
      | cons j next =>
        rw [deal_of_isNesting hp, deal_of_isNesting hp,
          List.filter_cons_of_pos (hnext j List.mem_cons_self),
          filter_deal (fun k hk => hnext k (List.mem_cons_of_mem j hk)) hrect' hK']
    · rw [deal_of_not_isNesting hp]
      by_cases hkeep : keep p = true
      · rw [List.filter_cons_of_pos ((hK p List.mem_cons_self).trans hkeep),
          List.filter_cons_of_pos hkeep, deal_of_not_isNesting hp, filter_deal hnext hrect' hK']
      · rw [List.filter_cons_of_neg (by rw [hK p List.mem_cons_self]; exact hkeep),
          List.filter_cons_of_neg hkeep, filter_deal hnext hrect' hK']

/-- Leaving out all rectangles leaves the other shapes in the order of the list. -/
theorem filter_deal_of_not_isNesting {K : Nat → Bool} :
    ∀ {next : List Nat} {l : List (Shape α × Nat)}, (∀ j ∈ next, ¬ K j = true) →
    (∀ p ∈ l, isNesting p = true → ¬ K p.2 = true) →
    (deal next l).filter K = (l.map (·.2)).filter K
  | next, [], _, _ => by cases next <;> rfl
  | next, p :: l, hnext, hrect => by
    have hrect' : ∀ q ∈ l, isNesting q = true → ¬ K q.2 = true :=
      fun q hq => hrect q (List.mem_cons_of_mem p hq)
    rw [List.map_cons]
    by_cases hp : isNesting p = true
    · -- what is dealt here is left out, and so is the place itself
      rw [List.filter_cons_of_neg (hrect p List.mem_cons_self hp)]
      cases next with
      | nil => rw [deal_nil_of_isNesting hp, filter_deal_of_not_isNesting hnext hrect']
      | cons j next =>
        rw [deal_of_isNesting hp, List.filter_cons_of_neg (hnext j List.mem_cons_self),
          filter_deal_of_not_isNesting (fun k hk => hnext k (List.mem_cons_of_mem j hk)) hrect']
    · rw [deal_of_not_isNesting hp, List.filter_cons, List.filter_cons,
        filter_deal_of_not_isNesting hnext hrect']

/-- Dealing the rectangles in the order of the list changes nothing. -/
theorem deal_self : ∀ l : List (Shape α × Nat),
    deal ((l.filter isNesting).map (·.2)) l = l.map (·.2)
  | [] => rfl
  | p :: l => by
    by_cases hp : isNesting p = true
    · rw [List.filter_cons_of_pos hp, List.map_cons, deal_of_isNesting hp, deal_self l,
        List.map_cons]
    · rw [List.filter_cons_of_neg hp, deal_of_not_isNesting hp, deal_self l, List.map_cons]

/-- Dealt to rectangles only, places are dealt as they come. -/
theorem deal_eq_self : ∀ {next : List Nat} {l : List (Shape α × Nat)},
    next.length = l.countP isNesting → (∀ p ∈ l, isNesting p = true) → deal next l = next
  | next, [], h, _ => by
    have hnil : next = [] := List.length_eq_zero_iff.mp h
    subst hnil
    rfl
  | next, p :: l, h, hrect => by
    have hrect' : ∀ q ∈ l, isNesting q = true := fun q hq => hrect q (List.mem_cons_of_mem p hq)
    rcases deal_cons h with ⟨-, j, rest, rfl, hl, hdeal⟩ | ⟨hp, -, -⟩
    · rw [hdeal, deal_eq_self hl hrect']
    · exact absurd (hrect p List.mem_cons_self) hp

/-- **The rectangles stand in the traversal order as in the nesting order.** -/
theorem filter_places_rectangles [OrderedScalar α] (shapes : List (Shape α)) :
    (places shapes).filter (fun i => decide (IsRectangle (boxes shapes) i)) = nesting shapes := by
  have hnext : ∀ j ∈ nesting shapes, decide (IsRectangle (boxes shapes) j) = true := by
    intro j hj
    rw [(nesting_perm shapes).mem_iff, mem_rectangles] at hj
    exact decide_eq_true hj
  have hK : ∀ p ∈ shapes.zipIdx, decide (IsRectangle (boxes shapes) p.2) = isNesting p := by
    rintro ⟨s, i⟩ hp
    rw [List.mem_zipIdx_iff_getElem?] at hp
    rw [Bool.eq_iff_iff, decide_eq_true_iff, isRectangle_boxes, hp]
    simp
  rw [places, filter_deal hnext (fun _ _ h => h) hK]
  refine deal_eq_self ?_ fun p hp => (List.mem_filter.mp hp).2
  rw [length_nesting, List.countP_filter]
  simp

/-- **What is no rectangle stands in the traversal order as in the list.** -/
theorem filter_places_others [OrderedScalar α] (shapes : List (Shape α)) :
    (places shapes).filter (fun i => decide ¬ IsRectangle (boxes shapes) i) =
      (List.range shapes.length).filter fun i => decide ¬ IsRectangle (boxes shapes) i := by
  have hnext : ∀ j ∈ nesting shapes, ¬ decide (¬ IsRectangle (boxes shapes) j) = true := by
    intro j hj hno
    rw [(nesting_perm shapes).mem_iff, mem_rectangles] at hj
    exact of_decide_eq_true hno hj
  have hrect : ∀ p ∈ shapes.zipIdx, isNesting p = true →
      ¬ decide (¬ IsRectangle (boxes shapes) p.2) = true := by
    intro p hp hnest hno
    exact of_decide_eq_true hno
      (isRectangle_boxes.mpr ⟨p.1, List.mem_zipIdx_iff_getElem?.mp hp, hnest⟩)
  rw [places, filter_deal_of_not_isNesting hnext hrect, map_snd_zipIdx]

/-- **The traversal orders agree on what is left if that is all rectangles and more.** -/
theorem filter_places_of_rectangles [OrderedScalar α]
    (hrect : ∀ p ∈ shapes.zipIdx, isNesting p = true → keep p = true) :
    (places shapes).filter (fun i => decide (i ∈ origins shapes keep)) =
      (places (remaining shapes keep)).map (origin shapes keep) := by
  have hkept : ∀ i, IsRectangle (boxes shapes) i → i ∈ origins shapes keep := by
    intro i hi
    obtain ⟨s, hs, hnest⟩ := isRectangle_boxes.mp hi
    exact mem_origins.mpr ⟨s, hs, hrect (s, i) (List.mem_zipIdx_iff_getElem?.mpr hs) hnest⟩
  have hnesting : nesting shapes =
      (nesting (remaining shapes keep)).map (origin shapes keep) := by
    simpa only [List.filter_true] using
      filter_nesting_remaining (M := fun _ => true) (fun _ _ _ _ => rfl) fun i hi _ => hkept i hi
  have hnext : ∀ j ∈ nesting shapes, decide (j ∈ origins shapes keep) = true := by
    intro j hj
    rw [(nesting_perm shapes).mem_iff, mem_rectangles] at hj
    exact decide_eq_true (hkept j hj)
  rw [places, filter_deal hnext hrect fun _ => decide_mem_origins, hnesting, filter_zipIdx,
    deal_map]
  rfl

/-- **In a list that has containers first the traversal order is that of the list.** -/
theorem places_of_nested [OrderedScalar α]
    (h : ∀ o i, encloses (boxes shapes) o i = true → o < i) :
    places shapes = List.range shapes.length := by
  have hasc : ((shapes.zipIdx.filter isNesting).map (·.2)).Pairwise (· < ·) := by
    refine List.Pairwise.sublist (List.filter_sublist.map _) ?_
    rw [map_snd_zipIdx]
    exact List.pairwise_lt_range
  have hgreedy : GreedyOn (boxes shapes) [] ((shapes.zipIdx.filter isNesting).map (·.2)) :=
    greedy_of_ascending (fun o i ho => ⟨isRectangle_left ho, h o i ho⟩) hasc
      fun i => by rw [mem_rectangles]; simp
  rw [places, nesting_eq_of_greedy hgreedy, deal_self, map_snd_zipIdx]

/-- **The traversal orders agree on what is left of a list that has containers first.** -/
theorem filter_places_of_nested [OrderedScalar α]
    (h : ∀ o i, encloses (boxes shapes) o i = true → o < i) :
    (places shapes).filter (fun i => decide (i ∈ origins shapes keep)) =
      (places (remaining shapes keep)).map (origin shapes keep) := by
  have hleft : ∀ o i, encloses (boxes (remaining shapes keep)) o i = true → o < i := by
    intro o i ho
    have hi := lt_of_isRectangle (isRectangle_right ho)
    have hlt := lt_of_isRectangle (isRectangle_left ho)
    rw [encloses_remaining hlt hi] at ho
    by_contra hle
    have := h _ _ ho
    rcases Nat.lt_or_eq_of_le (Nat.not_lt.mp hle) with hio | rfl
    · have hback : origin shapes keep i < origin shapes keep o := origin_lt hlt hio
      omega
    · omega
  rw [places_of_nested h, places_of_nested hleft, filter_range_origins]

end ShapeOverlay.Traversal
