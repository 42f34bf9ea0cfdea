import Mathlib.Data.List.Lex
import Mathlib.Order.Bounds.Defs
import ShapeOverlay.Proofs.Traversal.Deletion

/-! # The least arrangement

An `Arrangement` of places has each place once and none before one that has to come first. A greedy
sequence is the least arrangement in the lexicographic order (`Greedy.le`): at the first entry where
an arrangement differs from it, that entry could have been taken too, and the greedy sequence has
taken the least.

So the nesting order is the least arrangement of the rectangles (`isLeast_nesting`), and the
traversal order moves no more than it has to: it is the order of the list exactly if the list has
containers first (`order_eq_self_iff`), which a list in traversal order has
(`lt_of_encloses_arranged`). -/

namespace ShapeOverlay.Traversal

/-! ### Arrangements -/

/-- **What is left once some places have been taken, arranged**: each place once, and none before one
that has to be taken first. -/
structure Arrangement (N : Nat → Prop) (E : Nat → Nat → Prop) (taken l : List Nat) : Prop where
  nodup : l.Nodup
  mem_iff : ∀ i, i ∈ l ↔ N i ∧ i ∉ taken
  ordered : l.Pairwise fun i j => ¬ E j i

variable {N : Nat → Prop} {E : Nat → Nat → Prop}

/-- The first place of an arrangement can be taken next. -/
theorem Arrangement.available {taken l : List Nat} {j : Nat} (hE : ∀ o i, E o i → N o ∧ o ≠ i)
    (h : Arrangement N E taken (j :: l)) : Available N E taken j := by
  obtain ⟨hj, hnot⟩ := (h.mem_iff j).mp List.mem_cons_self
  refine ⟨hj, hnot, fun o ho => ?_⟩
  by_contra hotaken
  have hmem : o ∈ j :: l := (h.mem_iff o).mpr ⟨(hE o j ho).1, hotaken⟩
  have hol : o ∈ l := (List.mem_cons.mp hmem).resolve_left (hE o j ho).2
  exact (List.pairwise_cons.mp h.ordered).1 o hol ho

/-- What follows the first place arranges what is left once it has been taken. -/
theorem Arrangement.tail {taken l : List Nat} {j : Nat} (h : Arrangement N E taken (j :: l)) :
    Arrangement N E (taken ++ [j]) l where
  nodup := (List.nodup_cons.mp h.nodup).2
  mem_iff i := by
    have hj : j ∉ l := (List.nodup_cons.mp h.nodup).1
    rw [List.mem_append, List.mem_singleton, not_or, ← and_assoc, ← h.mem_iff, List.mem_cons]
    constructor
    · intro hi
      exact ⟨Or.inr hi, fun heq => hj (heq ▸ hi)⟩
    · rintro ⟨hi, hne⟩
      exact hi.resolve_left hne
  ordered := (List.pairwise_cons.mp h.ordered).2

/-- **A greedy sequence is the least arrangement.** -/
theorem Greedy.le (hE : ∀ o i, E o i → N o ∧ o ≠ i) : ∀ {taken l m : List Nat},
    Greedy N E taken l → Arrangement N E taken m → l ≤ m
  | _, [], m, _, _ => le_of_not_gt (List.not_lt_nil m)
  | _, i :: _, [], hl, hm => by
    obtain ⟨hi, hnot, -⟩ := hl.1.available
    exact absurd ((hm.mem_iff i).mpr ⟨hi, hnot⟩) List.not_mem_nil
  | _, i :: l, j :: m, hl, hm => by
    rcases (hl.1.le j (hm.available hE)).lt_or_eq with hlt | rfl
    · exact le_of_lt (List.Lex.rel hlt)
    · exact List.cons_le_cons i (Greedy.le hE hl.2 hm.tail)

variable {α : Type} [Scalar α]

/-- An arrangement of the rectangles of a list, each behind those that strictly contain it. -/
abbrev ArrangementOn (boxes : List (Option (Bounds α))) : List Nat → Prop :=
  Arrangement (IsRectangle boxes) (fun o i => encloses boxes o i = true) []

variable [OrderedScalar α] {shapes : List (Shape α)}

theorem arrangementOn_nesting (shapes : List (Shape α)) :
    ArrangementOn (boxes shapes) (nesting shapes) := by
  obtain ⟨t, -, ht, -, hn⟩ := exists_sorting shapes
  refine ⟨nodup_nesting shapes, fun i => ?_, hn ▸ ht.ordered⟩
  rw [(nesting_perm shapes).mem_iff, mem_rectangles]
  simp

/-- **The nesting order is the least arrangement of the rectangles.** -/
theorem isLeast_nesting (shapes : List (Shape α)) :
    IsLeast {l | ArrangementOn (boxes shapes) l} (nesting shapes) := by
  refine ⟨arrangementOn_nesting shapes, fun l hl => ?_⟩
  refine (greedy_nesting shapes).le (fun o i ho => ⟨isRectangle_left ho, ?_⟩) hl
  rintro rfl
  exact encloses_irrefl _ o ho

/-! ### Lists in traversal order -/

theorem order_eq_self_iff : order shapes = shapes.zipIdx.map Prod.swap ↔
    ∀ o i, encloses (boxes shapes) o i = true → o < i := by
  constructor
  · intro h o i ho
    -- the places are those of the list, and no place stands before one that encloses it
    have hplaces : places shapes = List.range shapes.length := by
      rw [← map_fst_order, h, List.map_map, ← map_snd_zipIdx]
      rfl
    have hpair := pairwise_places shapes
    rw [hplaces, List.pairwise_iff_getElem] at hpair
    have hol := lt_of_isRectangle (isRectangle_left ho)
    have hil := lt_of_isRectangle (isRectangle_right ho)
    rcases Nat.lt_trichotomy o i with hlt | rfl | hlt
    · exact hlt
    · exact absurd ho (encloses_irrefl _ o)
    · have hno := hpair i o (by simpa using hil) (by simpa using hol) hlt
      rw [List.getElem_range, List.getElem_range] at hno
      exact absurd ho hno
  · intro h
    refine List.ext_getElem? fun k => ?_
    rw [getElem?_order, places_of_nested h]
    by_cases hk : k < shapes.length
    · simp [hk]
    · simp [Nat.le_of_not_lt hk]

/-- **A list in traversal order has containers first.** -/
theorem lt_of_encloses_arranged {o i : Nat}
    (h : encloses (boxes ((order shapes).map (·.2))) o i = true) : o < i := by
  obtain ⟨b, c, hb, hc, -, hbc⟩ := encloses_iff.mp h
  rw [boxes, List.map_map, List.getElem?_map] at hb hc
  obtain ⟨x, hx, hb⟩ := Option.map_eq_some_iff.mp hb
  obtain ⟨y, hy, hc⟩ := Option.map_eq_some_iff.mp hc
  exact lt_of_strictlyContains hx hy hb hc hbc

/-- **The traversal order is stable.** Of all arrangements of the rectangles that have each behind
those that strictly contain it, the nesting order is the lexicographically least. The traversal
order leaves a list as it is exactly if the list has every rectangle behind those that strictly
contain it, and so it leaves every list in traversal order as it is. -/
theorem nesting_least_arrangement (shapes : List (Shape Float)) :
    IsLeast {l | ArrangementOn (boxes shapes) l} (nesting shapes) ∧
    (order shapes = shapes.zipIdx.map Prod.swap ↔
      ∀ o i, encloses (boxes shapes) o i = true → o < i) ∧
    order ((order shapes).map (·.2)) = ((order shapes).map (·.2)).zipIdx.map Prod.swap :=
  ⟨isLeast_nesting shapes, order_eq_self_iff,
    order_eq_self_iff.mpr fun _ _ => lt_of_encloses_arranged⟩

end ShapeOverlay.Traversal
