import Mathlib.Data.Fintype.EquivFin
import Mathlib.Data.List.Nodup
import Mathlib.Data.List.Perm.Basic
import Mathlib.Order.WellFounded
import Mathlib.Tactic.Tauto
import ShapeOverlay.Proofs.Traversal.Containment
import ShapeOverlay.Traversal

/-! # The sort of the rectangles

`Sorting.Sound` says what a sort under way has done: the rectangles taken so far are taken once
each, none before one that strictly contains it, the counts are those of the containers that still
wait, and the ready rectangles are those without a waiting container.

* `sound_start`: it holds at the beginning.
* `exists_take?`: taking the first ready rectangle lowers no count below zero and keeps it.
* `mem_taken`: once nothing is ready all rectangles have been taken, since strict containment has no
  cycles (`encloses_induction`).
* `exists_drain`: so the whole sort succeeds, and takes all rectangles. -/

namespace ShapeOverlay.Traversal

variable {α : Type} [Scalar α]

/-! ### Rectangles and their containers -/

/-- There is a rectangle at the place. -/
def IsRectangle (boxes : List (Option (Bounds α))) (i : Nat) : Prop :=
  boxes[i]?.join.isSome = true

instance (boxes : List (Option (Bounds α))) (i : Nat) : Decidable (IsRectangle boxes i) := by
  unfold IsRectangle; infer_instance

omit [Scalar α] in
theorem IsRectangle.lt {boxes : List (Option (Bounds α))} {i : Nat} (h : IsRectangle boxes i) :
    i < boxes.length := by
  by_contra hn
  rw [IsRectangle, List.getElem?_eq_none (by omega)] at h
  simp at h

theorem encloses_iff {boxes : List (Option (Bounds α))} {o i : Nat} :
    encloses boxes o i = true ↔ ∃ b c, boxes[o]? = some (some b) ∧ boxes[i]? = some (some c) ∧
      o ≠ i ∧ b.strictlyContains c = true := by
  unfold encloses
  split
  · next b c hb hc =>
    constructor
    · intro h
      rw [Bool.and_eq_true, bne_iff_ne] at h
      exact ⟨b, c, hb, hc, h⟩
    · rintro ⟨b', c', hb', hc', h⟩
      rw [hb] at hb'
      rw [hc] at hc'
      cases hb'
      cases hc'
      rw [Bool.and_eq_true, bne_iff_ne]
      exact h
  · next hno =>
    constructor
    · intro h
      cases h
    · rintro ⟨b, c, hb, hc, -⟩
      exact absurd hc (hno b c hb)

theorem isRectangle_left {boxes : List (Option (Bounds α))} {o i : Nat}
    (h : encloses boxes o i = true) : IsRectangle boxes o := by
  obtain ⟨b, -, hb, -⟩ := encloses_iff.mp h
  simp [IsRectangle, hb]

theorem isRectangle_right {boxes : List (Option (Bounds α))} {o i : Nat}
    (h : encloses boxes o i = true) : IsRectangle boxes i := by
  obtain ⟨-, c, -, hc, -⟩ := encloses_iff.mp h
  simp [IsRectangle, hc]

theorem encloses_irrefl (boxes : List (Option (Bounds α))) (i : Nat) :
    ¬ encloses boxes i i = true := by
  rw [encloses_iff]
  rintro ⟨-, -, -, -, hne, -⟩
  exact hne rfl

theorem encloses_trans [OrderedScalar α] {boxes : List (Option (Bounds α))} {i j k : Nat}
    (h : encloses boxes i j = true) (h' : encloses boxes j k = true) :
    encloses boxes i k = true := by
  obtain ⟨b, c, hb, hc, -, hbc⟩ := encloses_iff.mp h
  obtain ⟨c', d, hc', hd, -, hcd⟩ := encloses_iff.mp h'
  rw [hc] at hc'
  cases hc'
  have hbd := Bounds.strictlyContains_trans hbc hcd
  refine encloses_iff.mpr ⟨b, d, hb, hd, ?_, hbd⟩
  rintro rfl
  rw [hb] at hd
  cases hd
  exact Bounds.strictlyContains_irrefl b hbd

/-- **Induction from containers to what they contain.** Strict containment has no cycles. -/
theorem encloses_induction [OrderedScalar α] {boxes : List (Option (Bounds α))} {P : Nat → Prop}
    (h : ∀ i, IsRectangle boxes i → (∀ o, encloses boxes o i = true → P o) → P i) {i : Nat}
    (hi : IsRectangle boxes i) : P i := by
  have hwf : WellFounded fun j k : Fin boxes.length => encloses boxes j k = true := by
    have : IsTrans (Fin boxes.length) fun j k => encloses boxes j k = true :=
      ⟨fun _ _ _ => encloses_trans⟩
    have : Std.Irrefl fun j k : Fin boxes.length => encloses boxes j k = true :=
      ⟨fun j => encloses_irrefl boxes j⟩
    exact Finite.wellFounded_of_trans_of_irrefl _
  have hall : ∀ k : Fin boxes.length, IsRectangle boxes k → P k := by
    intro k
    induction k using hwf.induction with
    | _ k ih =>
      intro hk
      exact h k hk fun o ho => ih ⟨o, (isRectangle_left ho).lt⟩ ho (isRectangle_left ho)
  exact hall ⟨i, hi.lt⟩ hi

theorem mem_contents {boxes : List (Option (Bounds α))} {o i : Nat} :
    i ∈ contents boxes o ↔ encloses boxes o i = true := by
  rw [contents, List.mem_filter, List.mem_range]
  exact ⟨fun h => h.2, fun h => ⟨(isRectangle_right h).lt, h⟩⟩

theorem nodup_contents (boxes : List (Option (Bounds α))) (o : Nat) : (contents boxes o).Nodup :=
  List.nodup_range.filter _

/-! ### Ascending places -/

theorem mem_insertPlace {i k : Nat} : ∀ {js : List Nat}, k ∈ insertPlace i js ↔ k = i ∨ k ∈ js
  | [] => by simp [insertPlace]
  | j :: js => by
    unfold insertPlace
    split_ifs with h1 h2
    · simp
    · subst h2
      simp
    · rw [List.mem_cons, mem_insertPlace, List.mem_cons]
      tauto

theorem pairwise_insertPlace {i : Nat} : ∀ {js : List Nat}, js.Pairwise (· < ·) →
    (insertPlace i js).Pairwise (· < ·)
  | [], _ => by simp [insertPlace]
  | j :: js, h => by
    rw [List.pairwise_cons] at h
    unfold insertPlace
    split_ifs with h1 h2
    · refine List.pairwise_cons.mpr ⟨fun k hk => ?_, List.pairwise_cons.mpr h⟩
      rcases List.mem_cons.mp hk with rfl | hk
      · exact h1
      · exact h1.trans (h.1 k hk)
    · exact List.pairwise_cons.mpr h
    · refine List.pairwise_cons.mpr ⟨fun k hk => ?_, pairwise_insertPlace h.2⟩
      rcases mem_insertPlace.mp hk with rfl | hk
      · omega
      · exact h.1 k hk

namespace Sorting

/-! ### Lowering counts -/

/-- Lowering a count that is not zero makes the place ready if it was one. -/
theorem exists_release? {s : Sorting} {j n : Nat} (h : s.pending[j]? = some (n + 1))
    (hs : s.ready.Pairwise (· < ·)) :
    ∃ t, s.release? j = some t ∧ t.taken = s.taken ∧ t.ready.Pairwise (· < ·) ∧
      (∀ k, t.pending[k]? = if k = j then some n else s.pending[k]?) ∧
      ∀ k, k ∈ t.ready ↔ k ∈ s.ready ∨ k = j ∧ n = 0 := by
  have hjlt : j < s.pending.length := (List.getElem?_eq_some_iff.mp h).1
  have hstep : s.release? j = some { s with
      pending := s.pending.set j n
      ready := if n = 0 then insertPlace j s.ready else s.ready } := by
    simp [release?, h]
  refine ⟨_, hstep, rfl, ?_, fun k => ?_, fun k => ?_⟩
  · dsimp only
    split_ifs
    · exact pairwise_insertPlace hs
    · exact hs
  · dsimp only
    rw [List.getElem?_set]
    split_ifs with h1 h2 h2
    · rfl
    · omega
    · omega
    · rfl
  · dsimp only
    split_ifs with hn
    · rw [mem_insertPlace]
      tauto
    · tauto

/-- Lowering the counts at several places once each works if none of them is zero. It makes ready
the places whose count was one. -/
theorem exists_foldlM_release? : ∀ {js : List Nat} {s : Sorting}, js.Nodup →
    (∀ j ∈ js, ∃ n, s.pending[j]? = some (n + 1)) → s.ready.Pairwise (· < ·) →
    ∃ t, js.foldlM release? s = some t ∧ t.taken = s.taken ∧ t.ready.Pairwise (· < ·) ∧
      (∀ k, t.pending[k]? = if k ∈ js then s.pending[k]?.map (· - 1) else s.pending[k]?) ∧
      ∀ k, k ∈ t.ready ↔ k ∈ s.ready ∨ k ∈ js ∧ s.pending[k]? = some 1
  | [], s, _, _, hs => ⟨s, rfl, rfl, hs, by simp, by simp⟩
  | j :: js, s, hnd, hpos, hs => by
    obtain ⟨hj, hnd⟩ := List.nodup_cons.mp hnd
    obtain ⟨n, hn⟩ := hpos j (by simp)
    obtain ⟨u, hu, hutaken, hus, hupend, huready⟩ := exists_release? hn hs
    have hupos : ∀ k ∈ js, ∃ n, u.pending[k]? = some (n + 1) := by
      intro k hk
      have hkj : k ≠ j := by rintro rfl; exact hj hk
      rw [hupend, if_neg hkj]
      exact hpos k (by simp [hk])
    obtain ⟨t, ht, htaken, hsorted, hpend, hready⟩ := exists_foldlM_release? hnd hupos hus
    refine ⟨t, ?_, htaken.trans hutaken, hsorted, fun k => ?_, fun k => ?_⟩
    · rw [List.foldlM_cons, hu]
      exact ht
    · rw [hpend, hupend]
      by_cases hkj : k = j
      · subst hkj
        simp [hj, hn]
      · simp [hkj]
    · rw [hready, hupend, huready]
      by_cases hkj : k = j
      · subst hkj
        simp [hj, hn]
      · simp [hkj]

/-! ### What a sort under way has done -/

/-- How many of some places are containers that still wait. -/
def waiting (boxes : List (Option (Bounds α))) (taken : List Nat) (j : Nat) (os : List Nat) : Nat :=
  os.countP fun o => encloses boxes o j && decide (o ∉ taken)

/-- **The invariant of the sort.** -/
structure Sound (boxes : List (Option (Bounds α))) (s : Sorting) : Prop where
  nodup : s.taken.Nodup
  rectangle : ∀ i ∈ s.taken, IsRectangle boxes i
  closed : ∀ i ∈ s.taken, ∀ o, encloses boxes o i = true → o ∈ s.taken
  ordered : s.taken.Pairwise fun i j => ¬ encloses boxes j i = true
  pending : ∀ i < boxes.length,
    s.pending[i]? = some (waiting boxes s.taken i (List.range boxes.length))
  ascending : s.ready.Pairwise (· < ·)
  ready : ∀ i, i ∈ s.ready ↔
    IsRectangle boxes i ∧ i ∉ s.taken ∧ ∀ o, encloses boxes o i = true → o ∈ s.taken

theorem sound_start (boxes : List (Option (Bounds α))) : Sound boxes (start boxes) where
  nodup := List.nodup_nil
  rectangle := by simp [start]
  closed := by simp [start]
  ordered := List.Pairwise.nil
  pending i hi := by simp [start, depth, waiting, hi]
  ascending := List.pairwise_lt_range.filter _
  ready i := by
    have hzero : depth boxes i = 0 ↔ ∀ o, ¬ encloses boxes o i = true := by
      rw [depth, List.countP_eq_zero]
      exact ⟨fun h o ho => h o (List.mem_range.mpr (isRectangle_left ho).lt) ho, fun h o _ => h o⟩
    show i ∈ List.filter _ _ ↔ _
    rw [List.mem_filter, List.mem_range, Bool.and_eq_true, beq_iff_eq, hzero]
    constructor
    · rintro ⟨-, hr, hno⟩
      exact ⟨hr, List.not_mem_nil, fun o ho => absurd ho (hno o)⟩
    · rintro ⟨hr, -, hno⟩
      exact ⟨hr.lt, hr, fun o ho => List.not_mem_nil (hno o ho)⟩

variable {boxes : List (Option (Bounds α))} {s : Sorting}

theorem waiting_eq_zero {taken : List Nat} {j : Nat} :
    waiting boxes taken j (List.range boxes.length) = 0 ↔
      ∀ o, encloses boxes o j = true → o ∈ taken := by
  simp only [waiting, List.countP_eq_zero, List.mem_range, Bool.and_eq_true, decide_eq_true_eq,
    not_and, not_not]
  exact ⟨fun h o ho => h o (isRectangle_left ho).lt ho, fun h o _ ho => h o ho⟩

/-- Taking a place that is no container leaves the count. -/
theorem waiting_append {taken : List Nat} {i j : Nat} {os : List Nat}
    (h : i ∈ os → ¬ encloses boxes i j = true) :
    waiting boxes (taken ++ [i]) j os = waiting boxes taken j os := by
  refine List.countP_congr fun o ho => ?_
  by_cases hoi : o = i
  · subst hoi
    simp [h ho]
  · simp [hoi]

theorem waiting_cons (taken : List Nat) (j o : Nat) (os : List Nat) :
    waiting boxes taken j (o :: os) =
      waiting boxes taken j os + if encloses boxes o j = true ∧ o ∉ taken then 1 else 0 := by
  simp [waiting, List.countP_cons]

/-- Taking a container that waits lowers the count by one. -/
theorem waiting_append_self {taken : List Nat} {i j : Nat} (hij : encloses boxes i j = true)
    (hi : i ∉ taken) : ∀ {os : List Nat}, os.Nodup → i ∈ os →
    waiting boxes taken j os = waiting boxes (taken ++ [i]) j os + 1
  | o :: os, hnd, hmem => by
    obtain ⟨ho, hnd⟩ := List.nodup_cons.mp hnd
    rw [waiting_cons, waiting_cons]
    by_cases hoi : o = i
    · subst hoi
      rw [waiting_append (fun h => absurd h ho), if_pos ⟨hij, hi⟩, if_neg (by simp)]
    · have hmem : i ∈ os := (List.mem_cons.mp hmem).resolve_left (Ne.symm hoi)
      rw [waiting_append_self hij hi hnd hmem]
      simp [hoi]
      omega

/-- Every count that is to be lowered is one more than what is to be left of it. -/
theorem Sound.pending_eq (hs : Sound boxes s) {i j : Nat} (hi : i ∈ s.ready)
    (hij : encloses boxes i j = true) : s.pending[j]? =
      some (waiting boxes (s.taken ++ [i]) j (List.range boxes.length) + 1) := by
  obtain ⟨hrect, hni, -⟩ := (hs.ready i).mp hi
  rw [hs.pending j (isRectangle_right hij).lt]
  exact congrArg some (waiting_append_self hij hni List.nodup_range (List.mem_range.mpr hrect.lt))

theorem Sound.rest (hs : Sound boxes s) {i : Nat} {rest : List Nat} (hr : s.ready = i :: rest) :
    rest.Pairwise (· < ·) ∧ ∀ k, k ∈ rest ↔ k ∈ s.ready ∧ k ≠ i := by
  have hasc := hs.ascending
  rw [hr, List.pairwise_cons] at hasc
  refine ⟨hasc.2, fun k => ?_⟩
  rw [hr, List.mem_cons]
  constructor
  · intro hk
    have hlt := hasc.1 k hk
    exact ⟨Or.inr hk, by omega⟩
  · exact fun h => h.1.resolve_left h.2

/-- **What is ready once a ready rectangle is taken**: what was ready besides, and what waited for
this one only. -/
theorem Sound.ready_append (hs : Sound boxes s) {i : Nat} (hi : i ∈ s.ready) (k : Nat) :
    (k ∈ s.ready ∧ k ≠ i ∨ encloses boxes i k = true ∧ s.pending[k]? = some 1) ↔
      IsRectangle boxes k ∧ k ∉ s.taken ++ [i] ∧
        ∀ o, encloses boxes o k = true → o ∈ s.taken ++ [i] := by
  obtain ⟨-, hni, -⟩ := (hs.ready i).mp hi
  rw [hs.ready]
  by_cases hik : encloses boxes i k = true
  · -- `k` loses a container: it was not ready, and is ready now if that was the last one
    have hki : k ∉ s.taken := fun hk => hni (hs.closed k hk i hik)
    have hne : k ≠ i := by rintro rfl; exact encloses_irrefl boxes k hik
    rw [hs.pending_eq hi hik, Option.some.injEq, Nat.succ_inj, waiting_eq_zero]
    simp only [hik, true_and, List.mem_append, List.mem_singleton, hki, hne, or_self,
      not_false_eq_true, isRectangle_right hik]
    constructor
    · rintro (⟨h, -⟩ | h)
      · exact fun o ho => Or.inl (h o ho)
      · exact h
    · exact Or.inr
  · -- `k` keeps its containers
    have hcont : (∀ o, encloses boxes o k = true → o ∈ s.taken ++ [i]) ↔
        ∀ o, encloses boxes o k = true → o ∈ s.taken := by
      refine forall₂_congr fun o ho => ?_
      have hoi : o ≠ i := by rintro rfl; exact hik ho
      simp [hoi]
    rw [hcont]
    simp only [hik, List.mem_append, List.mem_singleton, not_or]
    tauto

/-- **Taking the first ready rectangle** lowers no count below zero and keeps the invariant. -/
theorem exists_take? (hs : Sound boxes s) {i : Nat} {rest : List Nat} (hr : s.ready = i :: rest) :
    ∃ t, s.take? boxes i rest = some t ∧ Sound boxes t ∧ t.taken = s.taken ++ [i] := by
  have hi : i ∈ s.ready := by rw [hr]; simp
  obtain ⟨hrect, hni, hcont⟩ := (hs.ready i).mp hi
  obtain ⟨hasc, hrest⟩ := hs.rest hr
  obtain ⟨t, ht, htaken, htasc, htpend, htready⟩ := exists_foldlM_release?
    (s := { s with ready := rest, taken := s.taken ++ [i] }) (nodup_contents boxes i)
    (fun j hj => ⟨_, hs.pending_eq hi (mem_contents.mp hj)⟩) hasc
  have htaken : t.taken = s.taken ++ [i] := htaken
  have hmem : ∀ k, k ∈ t.taken ↔ k ∈ s.taken ∨ k = i := by simp [htaken]
  refine ⟨t, ht, ?_, htaken⟩
  constructor
  · rw [htaken, List.nodup_append_comm]
    exact List.nodup_cons.mpr ⟨hni, hs.nodup⟩
  · intro k hk
    rcases (hmem k).mp hk with hk | rfl
    · exact hs.rectangle k hk
    · exact hrect
  · intro k hk o ho
    rw [hmem]
    rcases (hmem k).mp hk with hk | rfl
    · exact Or.inl (hs.closed k hk o ho)
    · exact Or.inl (hcont o ho)
  · rw [htaken, List.pairwise_append]
    refine ⟨hs.ordered, List.pairwise_singleton _ _, fun a ha b hb h => ?_⟩
    rw [List.mem_singleton.mp hb] at h
    exact hni (hs.closed a ha i h)
  · intro j hj
    rw [htpend, htaken]
    split_ifs with hij
    · rw [hs.pending_eq hi (mem_contents.mp hij)]
      rfl
    · rw [waiting_append fun _ => mt mem_contents.mpr hij]
      exact hs.pending j hj
  · exact htasc
  · intro k
    rw [htready, htaken, mem_contents, ← hs.ready_append hi, ← hrest]

/-- **Once nothing is ready all rectangles have been taken.** -/
theorem mem_taken [OrderedScalar α] (hs : Sound boxes s) (hr : s.ready = []) {i : Nat}
    (hi : IsRectangle boxes i) : i ∈ s.taken := by
  refine encloses_induction (fun k hk ih => ?_) hi
  by_contra hn
  have hmem : k ∈ s.ready := (hs.ready k).mpr ⟨hk, hn, ih⟩
  rw [hr] at hmem
  cases hmem

/-- **The sort takes rectangles until none is left**, if it has fuel for all of them. -/
theorem exists_drain [OrderedScalar α] : ∀ {fuel : Nat} {s : Sorting}, Sound boxes s →
    boxes.length ≤ s.taken.length + fuel →
    ∃ t, drain boxes fuel s = some t ∧ Sound boxes t ∧ t.ready = []
  | 0, s, hs, hlen => by
    refine ⟨s, rfl, hs, List.eq_nil_iff_forall_not_mem.mpr fun i hi => ?_⟩
    obtain ⟨hrect, hni, -⟩ := (hs.ready i).mp hi
    have hsub : i :: s.taken ⊆ List.range boxes.length := by
      intro k hk
      rcases List.mem_cons.mp hk with rfl | hk
      · exact List.mem_range.mpr hrect.lt
      · exact List.mem_range.mpr (hs.rectangle k hk).lt
    have hle := (List.subperm_of_subset (List.nodup_cons.mpr ⟨hni, hs.nodup⟩) hsub).length_le
    rw [List.length_cons, List.length_range] at hle
    omega
  | fuel + 1, s, hs, hlen => by
    unfold drain
    split
    · next hr => exact ⟨s, rfl, hs, hr⟩
    · next i rest hr =>
      obtain ⟨t, ht, hts, htaken⟩ := exists_take? hs hr
      rw [ht]
      exact exists_drain hts (by rw [htaken, List.length_append]; simp; omega)

end Sorting

/-- **The nesting order** is what a sound sort has taken when nothing is ready any more. -/
theorem exists_sorting [OrderedScalar α] (shapes : List (Shape α)) :
    ∃ t, Sorting.drain (boxes shapes) (boxes shapes).length (.start (boxes shapes)) = some t ∧
      Sorting.Sound (boxes shapes) t ∧ t.ready = [] ∧ nesting shapes = t.taken := by
  have hfuel : (boxes shapes).length ≤
      (Sorting.start (boxes shapes)).taken.length + (boxes shapes).length := by omega
  obtain ⟨t, ht, hs, hr⟩ := Sorting.exists_drain (Sorting.sound_start (boxes shapes)) hfuel
  refine ⟨t, ht, hs, hr, ?_⟩
  rw [nesting, ht]
  rfl

end ShapeOverlay.Traversal
