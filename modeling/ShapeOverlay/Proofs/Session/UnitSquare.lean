import ShapeOverlay.Proofs.Geometry.UnitSquare
import ShapeOverlay.Session.Drawing
import ShapeOverlay.Session.Editing

/-! # Sessions keep geometries in the unit square

`Drag.Fits` and `Drawing.Fits` say what a session has to remember for this: the vectors of a drag
are made of numbers, the radius that it may restore is not below zero, and the points of a draft lie
in the unit square. Under these a geometry that fits is dragged to one that fits
(`Drag.fits_apply`), and the shape that is finished can be stored (`Drawing.has_finish`). -/

namespace ShapeOverlay

open Scalar

variable {α : Type} [Scalar α] {N S : α → Prop}

/-! ### Drags -/

namespace Drag

/-- What a drag remembers of the grab. -/
def Fits (N : α → Prop) : Drag α → Prop
  | .corner _ _ _ offset | .vertex _ offset | .mover offset => offset.Has N
  | .radius offset _ grabbed => offset.Has N ∧ grabbed.Fits N

omit [Scalar α] in
theorem put_of {P : α → Prop} {t a b : α} (ht : P t) (h : P a ∧ P b) (s : Slot) :
    P (s.put t (a, b)).1 ∧ P (s.put t (a, b)).2 := by
  cases s with
  | first => exact ⟨ht, h.2⟩
  | second => exact ⟨h.1, ht⟩

theorem dragAxis_of {P : α → Prop} {t a b : α} (ht : P t) (h : P a ∧ P b) (isMin : Bool)
    (s : Slot) : P (dragAxis isMin s t (a, b)).1 ∧ P (dragAxis isMin s t (a, b)).2 := by
  unfold dragAxis
  dsimp only
  split_ifs
  · exact put_of ht h s
  · exact h
  · exact put_of ht h s
  · exact h

theorem fits_dragCorner {t a b : Point α} (ht : t.Fits N) (ha : a.Fits N) (hb : b.Fits N)
    (c : Corner) (xSlot ySlot : Slot) : (dragCorner c xSlot ySlot t a b).Fits N := by
  have hx := dragAxis_of ht.1 ⟨ha.1, hb.1⟩ c.isMinX xSlot
  have hy := dragAxis_of ht.2 ⟨ha.2, hb.2⟩ c.isMinY ySlot
  exact ⟨⟨hx.1, hy.1⟩, ⟨hx.2, hy.2⟩⟩

theorem fits_radiusAt? (hN : Domain N S) {v : Viewport α} {c t : Point α} (hc : c.Fits N)
    (ht : t.Has N) {r : Radius α} (h : radiusAt? c t v = some r) : r.Fits N := by
  unfold radiusAt? at h
  dsimp only at h
  split_ifs at h
  cases h
  exact Radius.fits_between hN hc ht

variable [OrderedScalar α]

/-- Moving a geometry that fits by a vector and clamping it gives one that fits. -/
theorem fits_translate (hN : Domain N S) {g : Geometry α} (hg : g.Fits N) {d : Point α}
    (hd : d.Has N) : (g.translate d).clamped.Fits N := by
  cases g with
  | rectangle a b =>
    exact ⟨Point.fits_clamped hN (hg.1.add hN hd), Point.fits_clamped hN (hg.2.add hN hd)⟩
  | polygon ps =>
    refine Geometry.fits_clamped hN (fun p hp => ?_) ?_
    · obtain ⟨q, hq, rfl⟩ := List.mem_map.mp hp
      exact (hg.2 q hq).add hN hd
    · have hlength := hg.1
      simpa [Geometry.translate, Geometry.isComplete] using hlength
  | circle c r =>
    exact ⟨Point.fits_clamped hN (hg.1.add hN hd), Radius.fits_magnitude hN hg.2.has⟩

theorem fits_dragMover (hN : Domain N S) {v : Viewport α} (hv : v.Has S) {g : Geometry α}
    (hg : g.Fits N) (t : Point α) : (dragMover g t v).Fits N := by
  unfold dragMover
  split
  · exact hg
  · next b hb =>
    obtain ⟨hx, hy⟩ := hg.low_bounds? hN hv hb
    exact fits_translate hN hg
      ⟨hN.sub_of_high (hN.high_greater _) hx, hN.sub_of_high (hN.high_greater _) hy⟩

/-- **A drag takes a geometry that fits to one that fits.** -/
theorem fits_apply (hN : Domain N S) {v : Viewport α} (hv : v.Has S) {d : Drag α} (hd : d.Fits N)
    {g : Geometry α} (hg : g.Fits N) {p : Point α} (hp : p.Fits N) : (d.apply g p v).Fits N := by
  unfold apply
  split
  · exact fits_dragCorner (Point.fits_clamped hN (hp.add hN hd)) hg.1 hg.2 _ _ _
  · refine ⟨?_, fun q hq => ?_⟩
    · rw [List.length_set]
      exact hg.1
    · rcases List.mem_or_eq_of_mem_set hq with hq | rfl
      · exact hg.2 q hq
      · exact Point.fits_clamped hN (hp.add hN hd)
  · next offset origin grabbed c r =>
    refine ⟨hg.1, ?_⟩
    split_ifs
    · exact hd.2
    · cases h : radiusAt? c (p + offset) v with
      | none => exact hg.2
      | some r' => exact fits_radiusAt? hN hg.1 (hp.add hN hd.1) h
  · exact fits_dragMover hN hv hg _
  · exact hg

/-- What is grabbed of a geometry that fits is remembered as it has to be. -/
theorem fits_ofPart? (hN : Domain N S) {v : Viewport α} (hv : v.Has S) {g : Geometry α}
    (hg : g.Fits N) {part : EditPart} {p : Point α} (hp : p.Fits N) {d : Drag α}
    (h : ofPart? g part p v = some d) : d.Fits N := by
  cases part with
  | mover =>
    obtain ⟨b, hb, rfl⟩ := Option.map_eq_some_iff.mp h
    have hlow := hg.low_bounds? hN hv hb
    exact Point.Has.sub hN ⟨hlow.1.2, hlow.2.2⟩ hp
  | handle k =>
    obtain ⟨⟨k', place⟩, hfind, hofHandle⟩ := Option.bind_eq_some_iff.mp h
    have hplace : (place - p).Has N :=
      (hg.has_handles hN hv (List.mem_of_find?_eq_some hfind)).sub hN hp
    have hofHandle : ofHandle? g k p (place - p) = some d := hofHandle
    unfold ofHandle? at hofHandle
    split at hofHandle
    · cases hofHandle
      exact hplace
    · split_ifs at hofHandle
      cases hofHandle
      exact hplace
    · cases hofHandle
      exact ⟨hplace, hg.2⟩
    · cases hofHandle

end Drag

/-! ### Editing -/

namespace Editing

/-- What the session remembers of a drag under way. -/
def Fits (N : α → Prop) (e : Editing α) : Prop := ∀ d, e.drag = some d → d.Fits N

theorem fits_start (target : Identifier) : (Editing.start target : Editing α).Fits N := by
  intro d hd
  cases hd

omit [Scalar α] in
theorem drag_pointerUp (e : Editing α) : e.pointerUp.2.drag = none := by
  unfold pointerUp
  split
  · assumption
  · rfl

theorem drag_click (e : Editing α) (g : Geometry α) (p : Point α) (v : Viewport α) (slop : α) :
    (e.click g p v slop).2.drag = e.drag := by
  unfold click
  split_ifs
  · rfl
  · split <;> rfl

theorem drag_pointerMove (e : Editing α) (g : Geometry α) (p : Point α) (v : Viewport α) :
    (e.pointerMove g p v).2.2.drag = e.drag := by
  unfold pointerMove
  split
  · rfl
  · dsimp only
    split_ifs <;> rfl

variable [OrderedScalar α] {e : Editing α} {g : Geometry α} {p : Point α} {v : Viewport α}

theorem fits_pointerDown (hN : Domain N S) (hv : v.Has S) (he : e.Fits N) (hg : g.Fits N)
    (hp : p.Fits N) (slop : α) : (e.pointerDown g p v slop).2.Fits N := by
  unfold pointerDown
  split
  · exact he
  · split
    · exact he
    · next d hd =>
      intro d' hd'
      cases hd'
      exact Drag.fits_ofPart? hN hv hg hp hd

theorem fits_pointerMove (hN : Domain N S) (hv : v.Has S) (he : e.Fits N) (hg : g.Fits N)
    (hp : p.Fits N) : (e.pointerMove g p v).2.1.Fits N := by
  unfold pointerMove
  split
  · exact hg
  · next d hd =>
    dsimp only
    split_ifs <;> exact Drag.fits_apply hN hv (he d hd) hg hp

end Editing

/-! ### Drawing -/

/-- The numbers of a shape that is finished have the property. -/
def DrawingStep.Has (N : α → Prop) : DrawingStep α → Prop
  | .commit shape => shape.geometry.Has N
  | .ignored | .preview => True

namespace Drawing

/-- The points of the draft lie in the unit square. -/
def Fits (N : α → Prop) (d : Drawing α) : Prop := (∀ p ∈ d.points, p.Fits N) ∧ d.radius.Fits N

variable {d : Drawing α} {p : Point α}

theorem fits_start [OrderedScalar α] (hN : Domain N S) (options : DrawingOptions) :
    (Drawing.start options : Drawing α).Fits N := by
  refine ⟨fun p hp => ?_, Radius.fits_zero hN⟩
  cases hp

theorem has_draft? (hd : d.Fits N) {g : Geometry α} (h : d.draft? = some g) : g.Has N := by
  unfold draft? at h
  split at h
  · next a b _ hpoints =>
    cases h
    exact ⟨(hd.1 a (by simp [hpoints])).has, (hd.1 b (by simp [hpoints])).has⟩
  · cases h
  · split_ifs at h
    cases h
    exact fun q hq => (hd.1 q hq).has
  · next c _ _ hpoints =>
    cases h
    exact ⟨(hd.1 c (by simp [hpoints])).has, hd.2.has⟩
  · cases h

theorem has_finish (hd : d.Fits N) (id : Identifier) : (d.finish id).Has N := by
  unfold finish
  split_ifs
  · split
    · next g hg => exact has_draft? hd hg
    · trivial
  · trivial

/-- Points that are kept and one that is added lie in the unit square. -/
theorem fits_append (hd : d.Fits N) (hp : p.Fits N) {kept : List (Point α)}
    (hsub : kept ⊆ d.points) : ∀ q ∈ kept ++ [p], q.Fits N := by
  intro q hq
  rcases List.mem_append.mp hq with hq | hq
  · exact hd.1 q (hsub hq)
  · rw [List.mem_singleton.mp hq]
    exact hp

theorem fits_setSecond (hd : d.Fits N) (hp : p.Fits N) : (d.setSecond p).Fits N :=
  ⟨fits_append hd hp (List.take_subset _ _), hd.2⟩

theorem fits_setLast (hd : d.Fits N) (hp : p.Fits N) : (d.setLast p).Fits N :=
  ⟨fits_append hd hp (List.dropLast_subset _), hd.2⟩

theorem fits_setLive (hd : d.Fits N) (hp : p.Fits N) : (d.setLive p).Fits N := by
  unfold setLive
  split_ifs
  · exact ⟨fits_append hd hp fun _ => id, hd.2⟩
  · exact fits_setLast hd hp

theorem fits_setEdge? (hN : Domain N S) (hd : d.Fits N) (hp : p.Fits N) {v : Viewport α}
    {d' : Drawing α} (h : d.setEdge? p v = some d') : d'.Fits N := by
  unfold setEdge? at h
  split at h
  · cases h
  · next c _ hpoints =>
    dsimp only at h
    split_ifs at h
    cases h
    exact ⟨hd.1, Radius.fits_between hN (hd.1 c (by simp [hpoints])) hp.has⟩

theorem fits_dropRepeated (hd : d.Fits N) : d.dropRepeated.Fits N := by
  unfold dropRepeated
  split
  · split_ifs
    · exact ⟨fun q hq => hd.1 q (List.dropLast_subset _ hq), hd.2⟩
    · exact hd
  · exact hd

theorem fits_pointerDown (hd : d.Fits N) (hp : p.Fits N) :
    (d.pointerDown p).1.Has N ∧ (d.pointerDown p).2.Fits N := by
  unfold pointerDown
  split_ifs
  · exact ⟨trivial, hd⟩
  · refine ⟨trivial, fun q hq => ?_, hd.2⟩
    rw [List.mem_singleton.mp hq]
    exact hp

theorem fits_pointerMove (hN : Domain N S) (hd : d.Fits N) (hp : p.Fits N) (v : Viewport α) :
    (d.pointerMove p v).1.Has N ∧ (d.pointerMove p v).2.Fits N := by
  unfold pointerMove
  split_ifs
  · split
    · exact ⟨trivial, fits_setSecond hd hp⟩
    · exact ⟨trivial, fits_setLive hd hp⟩
    · split
      · next h => exact ⟨trivial, fits_setEdge? hN hd hp h⟩
      · exact ⟨trivial, hd⟩
  · exact ⟨trivial, hd⟩

theorem fits_pointerUp (hN : Domain N S) (hd : d.Fits N) (hp : p.Fits N) (v : Viewport α)
    (id : Identifier) : (d.pointerUp p v id).1.Has N ∧ (d.pointerUp p v id).2.Fits N := by
  unfold pointerUp
  by_cases hs : d.isStarted = true
  · rw [if_pos hs]
    split
    · exact ⟨has_finish (fits_setSecond hd hp) id, fits_setSecond hd hp⟩
    · have hedge : ((d.setEdge? p v).getD d).Fits N := by
        cases h : d.setEdge? p v with
        | none => exact hd
        | some d' => exact fits_setEdge? hN hd hp h
      exact ⟨has_finish hedge id, hedge⟩
    · refine ⟨trivial, ?_⟩
      dsimp only
      split_ifs
      · exact fits_setLast hd hp
      · exact hd
  · rw [if_neg hs]
    exact ⟨trivial, hd⟩

theorem fits_doubleClick (hd : d.Fits N) (id : Identifier) :
    (d.doubleClick id).1.Has N ∧ (d.doubleClick id).2.Fits N := by
  unfold doubleClick
  split
  · exact ⟨has_finish (fits_dropRepeated hd) id, fits_dropRepeated hd⟩
  · exact ⟨trivial, hd⟩

end Drawing

end ShapeOverlay
