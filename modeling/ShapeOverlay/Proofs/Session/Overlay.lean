import ShapeOverlay.Proofs.Session.Reshaping

/-! # What is shown of a shape and what the pointer hits

While a shape is edited, its handles are looked for in several places: a press looks for the last one
near the pointer and then, by its name, for its place and its drag; the cursor and a click look for
the part under the pointer; and the overlay shows the centres in pixels.

All of them agree. The part under the pointer is told by what is shown
(`hitPart?_eq_handle_iff`, `hitPart?_eq_mover_iff`): it is the last handle whose centre is near the
pointer (`IsLastNear`), and the mover only if there is no such handle. A part that is hit can always
be grabbed (`Drag.exists_ofPart?`). No law of arithmetic is used, so this holds of every geometry,
whatever its coordinates are. -/

namespace ShapeOverlay

variable {α : Type} [Scalar α]

/-! ### Centres near a pixel -/

/-- The pixel is no further from a centre than the slop, along either axis. -/
def Point.IsNear (slop : α) (pixel center : Point α) : Prop :=
  Scalar.abs (center.x - pixel.x) ≤ slop ∧ Scalar.abs (center.y - pixel.y) ≤ slop

/-- **The last of some centres that is near a pixel**, by its place in the list. -/
structure IsLastNear (slop : α) (pixel : Point α) (centers : List (Point α)) (i : Nat) : Prop where
  near : ∃ c, centers[i]? = some c ∧ pixel.IsNear slop c
  last : ∀ j c, i < j → centers[j]? = some c → ¬ pixel.IsNear slop c

/-- A search from the end of a list finds the last element that passes. -/
theorem find?_reverse_eq_some_iff {β : Type} {f : β → Bool} {l : List β} {b : β} :
    l.reverse.find? f = some b ↔
      ∃ i : Nat, l[i]? = some b ∧ f b = true ∧ ∀ j c, i < j → l[j]? = some c → f c = false := by
  rw [List.find?_eq_some_iff_append]
  constructor
  · rintro ⟨hb, after, before, hsplit, hafter⟩
    obtain rfl : l = before.reverse ++ b :: after.reverse := by
      rw [← List.reverse_reverse l, hsplit]
      simp
    refine ⟨before.reverse.length, by simp, hb, fun j c hj hc => ?_⟩
    rw [List.getElem?_append_right (Nat.le_of_lt hj), List.getElem?_cons, if_neg (by omega)] at hc
    have hmem : c ∈ after := List.mem_reverse.mp (List.mem_of_getElem? hc)
    simpa using hafter c hmem
  · rintro ⟨i, hi, hb, hlast⟩
    obtain ⟨hlt, rfl⟩ := List.getElem?_eq_some_iff.mp hi
    refine ⟨hb, (l.drop (i + 1)).reverse, (l.take i).reverse, ?_, fun c hc => ?_⟩
    · have hsplit : l.reverse = (l.take i ++ l[i] :: l.drop (i + 1)).reverse := by
        rw [List.getElem_cons_drop, List.take_append_drop]
      rw [hsplit]
      simp
    · obtain ⟨k, hk⟩ := List.mem_iff_getElem?.mp (List.mem_reverse.mp hc)
      rw [List.getElem?_drop] at hk
      simpa using hlast _ c (by omega) hk

namespace Geometry

variable {v : Viewport α} {slop : α} {p q : Point α} {g : Geometry α} {h : Handle}
variable {part : EditPart}

theorem isNear_iff : isNear v slop p q = true ↔ (v.toPixels p).IsNear slop (v.toPixels q) := by
  simp [isNear, Point.IsNear]

/-! ### What is shown -/

/-- The centres of the handles that are shown of a geometry, in pixels; none if it is not shown. -/
def shownCenters (g : Geometry α) (v : Viewport α) : List (Point α) :=
  ((g.overlay? v).map Overlay.handles).getD []

/-- **All handles are shown, where they are.** A geometry that is not shown has none. -/
theorem shownCenters_eq (g : Geometry α) (v : Viewport α) :
    g.shownCenters v = (g.handles v).map fun h => v.toPixels h.2 := by
  unfold shownCenters
  cases hoverlay : g.overlay? v with
  | some o =>
    obtain ⟨b, -, rfl⟩ := Option.map_eq_some_iff.mp hoverlay
    rfl
  | none =>
    obtain rfl := overlay?_eq_none_iff.mp hoverlay
    rfl

theorem getElem?_shownCenters {i : Nat} {c : Point α} : (g.shownCenters v)[i]? = some c ↔
    ∃ x, (g.handles v)[i]? = some x ∧ v.toPixels x.2 = c := by
  rw [shownCenters_eq, List.getElem?_map, Option.map_eq_some_iff]

/-! ### What is hit -/

theorem isLastNear_iff {i : Nat} : IsLastNear slop (v.toPixels p) (g.shownCenters v) i ↔
    ∃ x, (g.handles v)[i]? = some x ∧ isNear v slop p x.2 = true ∧
      ∀ j y, i < j → (g.handles v)[j]? = some y → isNear v slop p y.2 = false := by
  simp only [← Bool.not_eq_true, isNear_iff]
  constructor
  · rintro ⟨⟨c, hc, hnear⟩, hlast⟩
    obtain ⟨x, hx, rfl⟩ := getElem?_shownCenters.mp hc
    exact ⟨x, hx, hnear, fun j y hj hy => hlast j _ hj (getElem?_shownCenters.mpr ⟨y, hy, rfl⟩)⟩
  · rintro ⟨x, hx, hnear, hlast⟩
    refine ⟨⟨_, getElem?_shownCenters.mpr ⟨x, hx, rfl⟩, hnear⟩, fun j c hj hc => ?_⟩
    obtain ⟨y, hy, rfl⟩ := getElem?_shownCenters.mp hc
    exact hlast j y hj hy

theorem hitPart?_eq_handle_iff_find? : g.hitPart? p v slop = some (.handle h) ↔
    ∃ q, (g.handles v).reverse.find? (fun x => isNear v slop p x.2) = some (h, q) := by
  unfold hitPart?
  cases (g.handles v).reverse.find? fun x => isNear v slop p x.2 with
  | none =>
    simp only [reduceCtorEq, exists_false, iff_false]
    split_ifs <;> simp
  | some x =>
    obtain ⟨k, q⟩ := x
    simp

/-- **A handle is hit if it is the last one whose centre is shown near the pointer.** -/
theorem hitPart?_eq_handle_iff : g.hitPart? p v slop = some (.handle h) ↔
    ∃ i, IsLastNear slop (v.toPixels p) (g.shownCenters v) i ∧
      ((g.handles v).map (·.1))[i]? = some h := by
  simp only [hitPart?_eq_handle_iff_find?, find?_reverse_eq_some_iff, isLastNear_iff,
    List.getElem?_map, Option.map_eq_some_iff]
  constructor
  · rintro ⟨q, i, hi, hnear, hlast⟩
    exact ⟨i, ⟨(h, q), hi, hnear, hlast⟩, (h, q), hi, rfl⟩
  · rintro ⟨i, ⟨x, hx, hnear, hlast⟩, y, hy, rfl⟩
    cases hx.symm.trans hy
    exact ⟨x.2, i, hx, hnear, hlast⟩

/-- **The mover is hit if no handle is, and the box contains the pointer.** -/
theorem hitPart?_eq_mover_iff : g.hitPart? p v slop = some .mover ↔
    (∀ c ∈ g.shownCenters v, ¬ (v.toPixels p).IsNear slop c) ∧ g.contains v p = true := by
  have hfree : (g.handles v).reverse.find? (fun x => isNear v slop p x.2) = none ↔
      ∀ c ∈ g.shownCenters v, ¬ (v.toPixels p).IsNear slop c := by
    simp only [shownCenters_eq, List.forall_mem_map, ← isNear_iff, List.find?_eq_none,
      List.mem_reverse]
  rw [← hfree, hitPart?]
  cases (g.handles v).reverse.find? fun x => isNear v slop p x.2 with
  | none => simp
  | some x => simp

end Geometry

/-! ### What can be grabbed -/

namespace Drag

variable {v : Viewport α} {slop : α} {p q : Point α} {g : Geometry α} {h : Handle}
variable {part : EditPart}

theorem exists_ofHandle? (hmem : (h, q) ∈ g.handles v) (pointer offset : Point α) :
    ∃ d, ofHandle? g h pointer offset = some d := by
  cases g with
  | rectangle a b =>
    rw [handles_rectangle] at hmem
    obtain ⟨c, -, hc⟩ := List.mem_map.mp hmem
    cases hc
    exact ⟨_, rfl⟩
  | polygon vertices =>
    obtain ⟨i, hi, hvertex⟩ := List.mem_mapIdx.mp hmem
    cases hvertex
    exact ⟨_, if_pos hi⟩
  | circle center r =>
    cases List.mem_singleton.mp hmem
    exact ⟨_, rfl⟩

/-- **A part that is hit can be grabbed.** -/
theorem exists_ofPart? (hpart : g.hitPart? p v slop = some part) :
    ∃ d, ofPart? g part p v = some d := by
  cases part with
  | mover =>
    obtain ⟨b, hb, -⟩ := (Option.any_eq_true _ _).mp (Geometry.hitPart?_eq_mover_iff.mp hpart).2
    exact ⟨_, Option.map_eq_some_iff.mpr ⟨b, hb, rfl⟩⟩
  | handle h =>
    obtain ⟨q, hq⟩ := Geometry.hitPart?_eq_handle_iff_find?.mp hpart
    have hmem : (h, q) ∈ g.handles v := List.mem_reverse.mp (List.mem_of_find?_eq_some hq)
    obtain ⟨x, hx⟩ := Option.isSome_iff_exists.mp
      (List.find?_isSome (p := fun x => x.1 == h).mpr ⟨(h, q), hmem, beq_self_eq_true h⟩)
    obtain ⟨d, hd⟩ := exists_ofHandle? hmem p (x.2 - p)
    exact ⟨d, Option.bind_eq_some_iff.mpr ⟨x, hx, hd⟩⟩

end Drag

namespace Editing

variable {e : Editing α} {g : Geometry α} {p : Point α} {v : Viewport α} {slop : α}
variable {part : EditPart}

/-- The session after a press that grabbed a part. -/
def grabbing (e : Editing α) (d : Drag α) : Editing α :=
  { e with drag := some d, moved := false, blind := .origin }

/-- **A press grabs what it hits.** -/
theorem pointerDown_of_hitPart? (e : Editing α) (hpart : g.hitPart? p v slop = some part) :
    ∃ d, Drag.Grabbed p v g part d ∧ e.pointerDown g p v slop = (.grabbed part, e.grabbing d) := by
  obtain ⟨d, hd⟩ := Drag.exists_ofPart? hpart
  exact ⟨d, Drag.grabbed_of_ofPart? hd, by simp only [pointerDown, hpart, hd, grabbing]⟩

theorem pointerDown_of_miss (e : Editing α) (hmiss : g.hitPart? p v slop = none) :
    e.pointerDown g p v slop = (.ignored, e) := by
  simp only [pointerDown, hmiss]

theorem pointerDown_eq_grabbed_iff : g.hitPart? p v slop = some part ↔
    ∃ d, Drag.Grabbed p v g part d ∧ e.pointerDown g p v slop = (.grabbed part, e.grabbing d) := by
  refine ⟨e.pointerDown_of_hitPart?, ?_⟩
  rintro ⟨d, -, hdown⟩
  cases hpart : g.hitPart? p v slop with
  | none =>
    rw [e.pointerDown_of_miss hpart] at hdown
    cases hdown
  | some part' =>
    obtain ⟨d', -, hdown'⟩ := e.pointerDown_of_hitPart? hpart
    cases hdown.symm.trans hdown'
    rfl

theorem pointerDown_eq_ignored_iff :
    g.hitPart? p v slop = none ↔ e.pointerDown g p v slop = (.ignored, e) := by
  refine ⟨e.pointerDown_of_miss, fun hdown => ?_⟩
  cases hpart : g.hitPart? p v slop with
  | none => rfl
  | some part =>
    obtain ⟨d, -, hdown'⟩ := e.pointerDown_of_hitPart? hpart
    cases hdown.symm.trans hdown'

theorem click_eq_finished_iff : (e.click g p v slop).1 = .finished ↔
    e.swallowClick = false ∧ g.hitPart? p v slop = none := by
  cases hswallow : e.swallowClick <;> cases hpart : g.hitPart? p v slop <;>
    simp [click, hswallow, hpart]

/-- **A press, the cursor and a click agree on the part under the pointer, and what is shown tells
which it is.** A press grabs a part exactly if the part is hit, and begins its drag; if nothing is
hit it leaves the session alone. The cursor tells a handle, the mover and neither apart, and a click
that is not swallowed finishes the session exactly if nothing is hit. The handle that is hit is the
last of those that are shown near the pointer, and the mover is hit only if there is none. -/
theorem overlay_tells_part (e : Editing α) (g : Geometry α) (p : Point α) (v : Viewport α)
    (slop : α) :
    (∀ part, g.hitPart? p v slop = some part ↔ ∃ d, Drag.Grabbed p v g part d ∧
        e.pointerDown g p v slop = (.grabbed part, e.grabbing d)) ∧
      (g.hitPart? p v slop = none ↔ e.pointerDown g p v slop = (.ignored, e)) ∧
      (g.cursorAt p v slop = .grab ↔ ∃ h, g.hitPart? p v slop = some (.handle h)) ∧
      (g.cursorAt p v slop = .move ↔ g.hitPart? p v slop = some .mover) ∧
      (g.cursorAt p v slop = .default ↔ g.hitPart? p v slop = none) ∧
      ((e.click g p v slop).1 = .finished ↔
        e.swallowClick = false ∧ g.hitPart? p v slop = none) ∧
      g.shownCenters v = (g.handles v).map (fun h => v.toPixels h.2) ∧
      (∀ h, g.hitPart? p v slop = some (.handle h) ↔
        ∃ i, IsLastNear slop (v.toPixels p) (g.shownCenters v) i ∧
          ((g.handles v).map (·.1))[i]? = some h) ∧
      (g.hitPart? p v slop = some .mover ↔
        (∀ c ∈ g.shownCenters v, ¬ (v.toPixels p).IsNear slop c) ∧ g.contains v p = true) := by
  refine ⟨fun _ => pointerDown_eq_grabbed_iff, pointerDown_eq_ignored_iff, ?_, ?_, ?_,
    click_eq_finished_iff, g.shownCenters_eq v, fun _ => Geometry.hitPart?_eq_handle_iff,
    Geometry.hitPart?_eq_mover_iff⟩
  all_goals
    unfold Geometry.cursorAt
    rcases g.hitPart? p v slop with _ | _ | _ <;> simp

end Editing

end ShapeOverlay
