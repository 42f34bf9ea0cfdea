import ShapeOverlay.Proofs.Traversal.Nesting

/-! # The nesting order is greedy

The sort of the rectangles takes, again and again, the first rectangle of the list that no waiting
rectangle strictly contains. `Greedy` says this of a sequence of places without the counts of the
sort: `N` are the places to be taken, and `E o i` says that `o` has to be taken before `i`.

* `greedy_nesting`: the nesting order is greedy.
* `Greedy.unique`: there is one greedy sequence only, so that a list of places that is seen to be
  greedy is the nesting order.
* `Greedy.filter`: a greedy sequence cut down to places that keep all their predecessors is greedy.
* `Greedy.map`: so is a greedy sequence of places that are renumbered in their order.
* `greedy_of_ascending`: where no place has to wait for a later one, the ascending sequence is
  greedy. -/

namespace ShapeOverlay.Traversal

/-! ### Sequences of first choices -/

section Greedy

/-- The place can be taken next: it is to be taken, it has not been, and all that has to be taken
before it has been. -/
def Available (N : Nat → Prop) (E : Nat → Nat → Prop) (taken : List Nat) (i : Nat) : Prop :=
  N i ∧ i ∉ taken ∧ ∀ o, E o i → o ∈ taken

/-- The least of the places that can be taken next. -/
structure IsFirst (N : Nat → Prop) (E : Nat → Nat → Prop) (taken : List Nat) (i : Nat) : Prop where
  available : Available N E taken i
  le : ∀ j, Available N E taken j → i ≤ j

/-- **Places taken one after the other**, after some have been: the least that can be taken next as
long as there is one. -/
def Greedy (N : Nat → Prop) (E : Nat → Nat → Prop) : List Nat → List Nat → Prop
  | taken, [] => ∀ i, ¬ Available N E taken i
  | taken, i :: rest => IsFirst N E taken i ∧ Greedy N E (taken ++ [i]) rest

variable {N : Nat → Prop} {E : Nat → Nat → Prop}

/-- **There is one greedy sequence only.** -/
theorem Greedy.unique : ∀ {taken l m : List Nat}, Greedy N E taken l → Greedy N E taken m → l = m
  | _, [], [], _, _ => rfl
  | _, [], j :: _, hl, hm => absurd hm.1.available (hl j)
  | _, i :: _, [], hl, hm => absurd hl.1.available (hm i)
  | _, i :: l, j :: m, hl, hm => by
    have hij : i = j := Nat.le_antisymm (hl.1.le j hm.1.available) (hm.1.le i hl.1.available)
    subst hij
    rw [hl.2.unique hm.2]

/-- What comes after some places is the least that can be taken once these have been. -/
theorem Greedy.isFirst : ∀ {taken pre post : List Nat} {i : Nat},
    Greedy N E taken (pre ++ i :: post) → IsFirst N E (taken ++ pre) i
  | _, [], _, _, h => by
    rw [List.append_nil]
    exact h.1
  | taken, j :: pre, post, i, h => by
    have hrest := Greedy.isFirst h.2
    rwa [List.append_assoc] at hrest

/-- All that has to be taken before a place has been taken when the place is. -/
theorem Greedy.closed : ∀ {taken pre post : List Nat}, Greedy N E taken (pre ++ post) →
    ∀ i ∈ pre, ∀ o, E o i → o ∈ taken ++ pre
  | taken, j :: pre, post, h, i, hi, o, ho => by
    rcases List.mem_cons.mp hi with rfl | hi
    · exact List.mem_append_left _ (h.1.available.2.2 o ho)
    · have hmem := Greedy.closed h.2 i hi o ho
      rwa [List.append_assoc] at hmem

/-- A place that does not have to wait comes behind smaller places only. -/
theorem Greedy.lt_of_mem {i : Nat} (hi : N i) (hE : ∀ o, ¬ E o i) : ∀ {taken pre post : List Nat},
    Greedy N E taken (pre ++ post) → i ∉ taken → i ∉ pre → ∀ j ∈ pre, j < i
  | taken, k :: pre, post, h, htaken, hpre, j, hj => by
    obtain ⟨hik, hpre⟩ := not_or.mp (mt List.mem_cons.mpr hpre)
    rcases List.mem_cons.mp hj with rfl | hj
    · have hle := h.1.le i ⟨hi, htaken, fun o ho => absurd ho (hE o)⟩
      omega
    · refine Greedy.lt_of_mem hi hE h.2 (fun hmem => ?_) hpre j hj
      rcases List.mem_append.mp hmem with hmem | hmem
      · exact htaken hmem
      · exact hik (List.mem_singleton.mp hmem)

/-! ### Fewer places -/

/-- Among places that keep all their predecessors the same can be taken next. -/
theorem available_filter {K : Nat → Bool} (hK : ∀ i o, K i = true → E o i → K o = true)
    {taken : List Nat} {i : Nat} : Available (fun i => N i ∧ K i = true) E (taken.filter K) i ↔
      K i = true ∧ Available N E taken i := by
  unfold Available
  constructor
  · rintro ⟨⟨hi, hKi⟩, hnot, hall⟩
    refine ⟨hKi, hi, fun hmem => hnot (List.mem_filter.mpr ⟨hmem, hKi⟩), fun o ho => ?_⟩
    exact (List.mem_filter.mp (hall o ho)).1
  · rintro ⟨hKi, hi, hnot, hall⟩
    refine ⟨⟨hi, hKi⟩, fun hmem => hnot (List.mem_filter.mp hmem).1, fun o ho => ?_⟩
    exact List.mem_filter.mpr ⟨hall o ho, hK i o hKi ho⟩

/-- **A greedy sequence is greedy among places that keep all their predecessors.** -/
theorem Greedy.filter {K : Nat → Bool} (hK : ∀ i o, K i = true → E o i → K o = true) :
    ∀ {taken l : List Nat}, Greedy N E taken l →
      Greedy (fun i => N i ∧ K i = true) E (taken.filter K) (l.filter K)
  | _, [], h => fun i hi => h i ((available_filter hK).mp hi).2
  | taken, i :: l, h => by
    have hrest := Greedy.filter hK h.2
    rw [List.filter_append] at hrest
    by_cases hi : K i = true
    · rw [List.filter_cons_of_pos hi, List.filter_nil] at hrest
      rw [List.filter_cons_of_pos hi]
      refine ⟨⟨(available_filter hK).mpr ⟨hi, h.1.available⟩, fun j hj => ?_⟩, hrest⟩
      exact h.1.le j ((available_filter hK).mp hj).2
    · rw [List.filter_cons_of_neg hi, List.filter_nil, List.append_nil] at hrest
      rwa [List.filter_cons_of_neg hi]

/-! ### Other numbers -/

/-- The places `N` of one list are, in their order, the places `N'` of another, with the same
predecessors. -/
structure Renumbers (φ : Nat → Nat) (N : Nat → Prop) (E : Nat → Nat → Prop) (N' : Nat → Prop)
    (E' : Nat → Nat → Prop) : Prop where
  lt : ∀ j k, N j → N k → j < k → φ j < φ k
  onto : ∀ i, N' i ↔ ∃ k, N k ∧ φ k = i
  before : ∀ o i, N i → E o i → N o
  before' : ∀ o i, N' i → E' o i → N' o
  iff : ∀ j k, N j → N k → (E' (φ j) (φ k) ↔ E j k)

variable {φ : Nat → Nat} {N' : Nat → Prop} {E' : Nat → Nat → Prop}

theorem Renumbers.le_iff (h : Renumbers φ N E N' E') {j k : Nat} (hj : N j) (hk : N k) :
    φ j ≤ φ k ↔ j ≤ k := by
  rcases Nat.lt_trichotomy j k with hlt | rfl | hlt
  · have := h.lt j k hj hk hlt
    omega
  · omega
  · have := h.lt k j hk hj hlt
    omega

theorem Renumbers.inj (h : Renumbers φ N E N' E') {j k : Nat} (hj : N j) (hk : N k)
    (heq : φ j = φ k) : j = k :=
  Nat.le_antisymm ((h.le_iff hj hk).mp heq.le) ((h.le_iff hk hj).mp heq.ge)

theorem Renumbers.mem_map_iff (h : Renumbers φ N E N' E') {taken : List Nat}
    (ht : ∀ i ∈ taken, N i) {k : Nat} (hk : N k) : φ k ∈ taken.map φ ↔ k ∈ taken := by
  constructor
  · intro hmem
    obtain ⟨j, hj, heq⟩ := List.mem_map.mp hmem
    rwa [← h.inj (ht j hj) hk heq]
  · exact List.mem_map_of_mem

theorem Renumbers.available_iff (h : Renumbers φ N E N' E') {taken : List Nat}
    (ht : ∀ i ∈ taken, N i) {k : Nat} (hk : N k) :
    Available N' E' (taken.map φ) (φ k) ↔ Available N E taken k := by
  have hN' : N' (φ k) := (h.onto _).mpr ⟨k, hk, rfl⟩
  unfold Available
  rw [h.mem_map_iff ht hk]
  constructor
  · rintro ⟨-, hnot, hall⟩
    refine ⟨hk, hnot, fun o ho => ?_⟩
    have hNo : N o := h.before o k hk ho
    exact (h.mem_map_iff ht hNo).mp (hall _ ((h.iff o k hNo hk).mpr ho))
  · rintro ⟨-, hnot, hall⟩
    refine ⟨hN', hnot, fun o ho => ?_⟩
    obtain ⟨j, hj, rfl⟩ := (h.onto o).mp (h.before' o _ hN' ho)
    exact (h.mem_map_iff ht hj).mpr (hall j ((h.iff j k hj hk).mp ho))

/-- **A greedy sequence stays greedy if its places are renumbered in their order.** -/
theorem Greedy.map (h : Renumbers φ N E N' E') : ∀ {taken l : List Nat}, (∀ i ∈ taken, N i) →
    Greedy N E taken l → Greedy N' E' (taken.map φ) (l.map φ)
  | taken, [], ht, hl => by
    intro i hi
    obtain ⟨k, hk, rfl⟩ := (h.onto i).mp hi.1
    exact hl k ((h.available_iff ht hk).mp hi)
  | taken, i :: l, ht, hl => by
    have hi : N i := hl.1.available.1
    have ht' : ∀ j ∈ taken ++ [i], N j := by
      intro j hj
      rcases List.mem_append.mp hj with hj | hj
      · exact ht j hj
      · rwa [List.mem_singleton.mp hj]
    have hrest := Greedy.map h ht' hl.2
    rw [List.map_append] at hrest
    refine ⟨⟨(h.available_iff ht hi).mpr hl.1.available, fun j hj => ?_⟩, hrest⟩
    obtain ⟨k, hk, rfl⟩ := (h.onto j).mp hj.1
    exact (h.le_iff hi hk).mpr (hl.1.le k ((h.available_iff ht hk).mp hj))

/-! ### Places in ascending order -/

/-- **If no place has to wait for a later one**, the ascending sequence of what has not been taken
is greedy. -/
theorem greedy_of_ascending (hE : ∀ o i, E o i → N o ∧ o < i) : ∀ {taken l : List Nat},
    l.Pairwise (· < ·) → (∀ i, i ∈ l ↔ N i ∧ i ∉ taken) → Greedy N E taken l
  | taken, [], _, hmem => fun i hi => List.not_mem_nil ((hmem i).mpr ⟨hi.1, hi.2.1⟩)
  | taken, i :: l, hasc, hmem => by
    obtain ⟨hlt, hasc⟩ := List.pairwise_cons.mp hasc
    obtain ⟨hi, hnot⟩ := (hmem i).mp List.mem_cons_self
    have hle : ∀ j, N j → j ∉ taken → i ≤ j := by
      intro j hj hjnot
      rcases List.mem_cons.mp ((hmem j).mpr ⟨hj, hjnot⟩) with rfl | hjl
      · exact Nat.le_refl j
      · exact (hlt j hjl).le
    have hfirst : IsFirst N E taken i := by
      refine ⟨⟨hi, hnot, fun o ho => ?_⟩, fun j hj => hle j hj.1 hj.2.1⟩
      by_contra hotaken
      have := hle o (hE o i ho).1 hotaken
      have := (hE o i ho).2
      omega
    refine ⟨hfirst, greedy_of_ascending hE hasc fun j => ?_⟩
    rw [List.mem_append, List.mem_singleton, not_or]
    constructor
    · intro hj
      obtain ⟨hNj, hjnot⟩ := (hmem j).mp (List.mem_cons_of_mem i hj)
      exact ⟨hNj, hjnot, (hlt j hj).ne'⟩
    · rintro ⟨hNj, hjnot, hne⟩
      exact (List.mem_cons.mp ((hmem j).mpr ⟨hNj, hjnot⟩)).resolve_left hne

end Greedy

/-! ### The nesting order -/

variable {α : Type} [Scalar α]

/-- A sequence of the rectangles of a list that is greedy as to strict containment. -/
abbrev GreedyOn (boxes : List (Option (Bounds α))) : List Nat → List Nat → Prop :=
  Greedy (IsRectangle boxes) fun o i => encloses boxes o i = true

/-- What a sort takes until nothing is ready is greedy. -/
theorem exists_greedy_of_drain {boxes : List (Option (Bounds α))} : ∀ {fuel : Nat}
    {s t : Sorting}, Sorting.Sound boxes s → Sorting.drain boxes fuel s = some t → t.ready = [] →
    ∃ l, t.taken = s.taken ++ l ∧ GreedyOn boxes s.taken l
  | 0, s, t, hs, hdrain, hready => by
    cases hdrain
    refine ⟨[], (List.append_nil _).symm, fun i hi => ?_⟩
    have hmem := (hs.ready i).mpr hi
    rw [hready] at hmem
    cases hmem
  | fuel + 1, s, t, hs, hdrain, hready => by
    unfold Sorting.drain at hdrain
    split at hdrain
    · next hnil =>
      cases hdrain
      refine ⟨[], (List.append_nil _).symm, fun i hi => ?_⟩
      have hmem := (hs.ready i).mpr hi
      rw [hnil] at hmem
      cases hmem
    · next i rest hr =>
      obtain ⟨u, hu, hus, hutaken⟩ := Sorting.exists_take? hs hr
      rw [hu] at hdrain
      obtain ⟨l, hl, hgreedy⟩ := exists_greedy_of_drain hus hdrain hready
      rw [hutaken] at hl hgreedy
      refine ⟨i :: l, by rw [hl, List.append_assoc]; rfl, ⟨?_, fun j hj => ?_⟩, hgreedy⟩
      · exact (hs.ready i).mp (by rw [hr]; simp)
      · -- what is ready is listed in ascending order
        have hmem := (hs.ready j).mpr hj
        have hasc := hs.ascending
        rw [hr] at hmem hasc
        rcases List.mem_cons.mp hmem with rfl | hmem
        · exact Nat.le_refl j
        · exact ((List.pairwise_cons.mp hasc).1 j hmem).le

/-- **The nesting order is greedy.** -/
theorem greedy_nesting [OrderedScalar α] (shapes : List (Shape α)) :
    GreedyOn (boxes shapes) [] (nesting shapes) := by
  obtain ⟨t, hdrain, -, hready, hnesting⟩ := exists_sorting shapes
  obtain ⟨l, hl, hgreedy⟩ :=
    exists_greedy_of_drain (Sorting.sound_start (boxes shapes)) hdrain hready
  rw [hnesting, hl]
  exact hgreedy

/-- A sequence that is seen to be greedy is the nesting order. -/
theorem nesting_eq_of_greedy [OrderedScalar α] {shapes : List (Shape α)} {l : List Nat}
    (h : GreedyOn (boxes shapes) [] l) : nesting shapes = l :=
  (greedy_nesting shapes).unique h

end ShapeOverlay.Traversal
