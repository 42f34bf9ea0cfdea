import ShapeOverlay.Store
import Mathlib.Data.List.Induction

/-! # What is taken out of a list, and what is left

Elements are taken out one after the other, so that the places after each of them move down by one.
Taken from the last to the first, elements at distinct places come out as if they had all been taken
at once (`takeOut?_reverse`): `elementsAt` describes both what comes out and what is left. -/

namespace ShapeOverlay

variable {β : Type} {l l' : List β} {p q : Nat → Bool}

/-! ### The elements at some places -/

/-- The elements at the places for which the test is true, in order. -/
def elementsAt (p : Nat → Bool) (l : List β) : List β :=
  (l.zipIdx.filter fun (_, i) => p i).map (·.1)

theorem elementsAt_append :
    elementsAt p (l ++ l') = elementsAt p l ++ elementsAt (fun i => p (l.length + i)) l' := by
  have hshift : l'.zipIdx l.length = l'.zipIdx.map fun (b, i) => (b, l.length + i) := by
    rw [List.zipIdx_eq_map_add]
  simp [elementsAt, List.zipIdx_append, hshift, List.filter_map, Function.comp_def]

theorem elementsAt_congr (h : ∀ i < l.length, p i = q i) : elementsAt p l = elementsAt q l := by
  refine congrArg _ (List.filter_congr fun x hx => ?_)
  exact h x.2 (List.snd_lt_of_mem_zipIdx hx)

theorem elementsAt_eq_self (h : ∀ i < l.length, p i = true) : elementsAt p l = l := by
  rw [elementsAt, List.filter_eq_self.2 fun x hx => h x.2 (List.snd_lt_of_mem_zipIdx hx),
    List.zipIdx_map_fst]

theorem elementsAt_eq_nil (h : ∀ i < l.length, p i = false) : elementsAt p l = [] := by
  rw [elementsAt, List.map_eq_nil_iff, List.filter_eq_nil_iff]
  intro x hx
  simp [h x.2 (List.snd_lt_of_mem_zipIdx hx)]

theorem mem_elementsAt {b : β} : b ∈ elementsAt p l ↔ ∃ i, l[i]? = some b ∧ p i = true := by
  simp only [elementsAt, List.mem_map, List.mem_filter, Prod.exists, exists_and_right,
    exists_eq_right, List.mk_mem_zipIdx_iff_getElem?]

theorem elementsAt_sublist (p : Nat → Bool) (l : List β) : (elementsAt p l).Sublist l := by
  have hfilter := (List.filter_sublist (l := l.zipIdx) (p := fun x => p x.2)).map Prod.fst
  rwa [List.zipIdx_map_fst] at hfilter

/-! ### Places in the first part of a list -/

section
variable {places : List Nat} (h : ∀ i ∈ places, i < l.length)
include h

theorem elementsAt_mem_append :
    elementsAt (· ∈ places) (l ++ l') = elementsAt (· ∈ places) l := by
  have hnone : elementsAt (fun i => decide (l.length + i ∈ places)) l' = [] := by
    refine elementsAt_eq_nil fun i _ => decide_eq_false fun hi => ?_
    have := h _ hi
    omega
  rw [elementsAt_append, hnone, List.append_nil]

theorem elementsAt_notMem_append :
    elementsAt (· ∉ places) (l ++ l') = elementsAt (· ∉ places) l ++ l' := by
  have hall : elementsAt (fun i => decide (l.length + i ∉ places)) l' = l' := by
    refine elementsAt_eq_self fun i _ => decide_eq_true fun hi => ?_
    have := h _ hi
    omega
  rw [elementsAt_append, hall]

end

/-! ### The last of some places -/

theorem mem_concat_iff {places : List Nat} {i : Nat} (hi : i < l.length) :
    i ∈ places ++ [l.length] ↔ i ∈ places := by
  rw [List.mem_append, List.mem_singleton]
  exact or_iff_left (Nat.ne_of_lt hi)

section
variable {places : List Nat} (b : β) (h : ∀ i ∈ places, i < l.length)
include h

theorem lt_length_of_mem_concat : ∀ i ∈ places ++ [l.length], i < (l ++ [b]).length := by
  intro i hi
  rw [List.length_append, List.length_singleton]
  rcases List.mem_append.1 hi with hi | hi
  · have := h i hi
    omega
  · have := List.mem_singleton.1 hi
    omega

/-- The element at the last place is the last one that is picked out. -/
theorem elementsAt_mem_concat : elementsAt (· ∈ places ++ [l.length]) (l ++ b :: l') =
    elementsAt (· ∈ places) (l ++ l') ++ [b] := by
  have hfirst : elementsAt (· ∈ places ++ [l.length]) l = elementsAt (· ∈ places) l :=
    elementsAt_congr fun i hi => decide_eq_decide.2 (mem_concat_iff hi)
  rw [List.append_cons l, elementsAt_mem_append (lt_length_of_mem_concat b h),
    elementsAt_mem_append h, elementsAt_append, hfirst]
  simp [elementsAt]

/-- Without the element at the last place the others are left. -/
theorem elementsAt_notMem_concat : elementsAt (· ∉ places ++ [l.length]) (l ++ b :: l') =
    elementsAt (· ∉ places) (l ++ l') := by
  have hfirst : elementsAt (· ∉ places ++ [l.length]) l = elementsAt (· ∉ places) l :=
    elementsAt_congr fun i hi => decide_eq_decide.2 (not_congr (mem_concat_iff hi))
  rw [List.append_cons l, elementsAt_notMem_append (lt_length_of_mem_concat b h),
    elementsAt_notMem_append h, elementsAt_append, hfirst]
  simp [elementsAt]

end

/-! ### Taking out from the last to the first -/

/-- **What is taken out from the last place to the first, and what is left.** -/
theorem takeOut?_reverse {places : List Nat} (h : places.Pairwise (· < ·))
    (hl : ∀ i ∈ places, i < l.length) :
    takeOut? l places.reverse =
      some ((elementsAt (· ∈ places) l).reverse, elementsAt (· ∉ places) l) := by
  induction places using List.reverseRecOn generalizing l with
  | nil =>
    rw [elementsAt_eq_nil (by simp), elementsAt_eq_self (by simp)]
    rfl
  | append_singleton places i ih =>
    obtain ⟨hplaces, -, hbefore⟩ := List.pairwise_append.1 h
    have hi : i < l.length := hl i (List.mem_append_right places List.mem_cons_self)
    -- The element at the last place parts the list. It comes out first, and all other places are
    -- in the part before it.
    obtain ⟨a, b, c, rfl, rfl⟩ : ∃ a b c, l = a ++ b :: c ∧ a.length = i :=
      ⟨l.take i, l[i], l.drop (i + 1), by rw [List.getElem_cons_drop, List.take_append_drop],
        List.length_take_of_le (Nat.le_of_lt hi)⟩
    have hbefore : ∀ j ∈ places, j < a.length := fun j hj => hbefore j hj _ List.mem_cons_self
    have hrest : takeOut? (a ++ c) places.reverse =
        some ((elementsAt (· ∈ places) (a ++ c)).reverse, elementsAt (· ∉ places) (a ++ c)) := by
      refine ih hplaces fun j hj => ?_
      have := hbefore j hj
      rw [List.length_append]
      omega
    have herase : (a ++ b :: c).eraseIdx a.length = a ++ c := by
      rw [List.eraseIdx_append_of_length_le (Nat.le_refl _), Nat.sub_self, List.eraseIdx_cons_zero]
    rw [elementsAt_mem_concat b hbefore, elementsAt_notMem_concat b hbefore, List.reverse_append,
      List.reverse_append]
    simp [takeOut?, herase, hrest]

/-! ### Removing from a store -/

namespace Store

variable {α : Type} (s : Store α) (selector : Selector)

/-- The shapes leave the list one by one, from the last to the first. -/
theorem takeOut?_select : takeOut? s.shapes (s.select selector).reverse =
    some ((s.remove selector).1.reverse, (s.remove selector).2.shapes) := by
  rw [remove, List.reverse_reverse]
  exact (Option.some_get (s.isSome_takeOut?_select selector)).symm

/-- **The shapes that a selector picks out come out together, and the others stay.** -/
theorem remove_eq : s.remove selector =
    (elementsAt (· ∈ s.select selector) s.shapes, ⟨elementsAt (· ∉ s.select selector) s.shapes⟩) := by
  have htaken := takeOut?_reverse (s.pairwise_select selector) fun i hi => lt_of_mem_select hi
  rw [takeOut?_select, Option.some.injEq, Prod.mk.injEq, List.reverse_inj] at htaken
  obtain ⟨htaken, hrest⟩ := htaken
  rw [← htaken, ← hrest]

theorem remove_sublist : (s.remove selector).2.shapes.Sublist s.shapes := by
  rw [remove_eq]
  exact elementsAt_sublist (· ∉ s.select selector) s.shapes

end Store

end ShapeOverlay
