import ShapeOverlay.Proofs.Session.Finish
import ShapeOverlay.Proofs.Session.RadiusDrag

/-! # Shapes that keep their extent

A drawing is finished only if its draft has an extent: the corners of a rectangle differ along both
axes, a polygon has its vertices, and a circle has a radius (`Geometry.HasExtent`,
`isCommittable_iff_hasExtent`). Editing has other guards. A corner that is dragged never reaches the
one across, and the mover changes no size, so a rectangle and a polygon keep their extent. The drag
of a radius asks only whether the circle fits on the surface, and a circle without a radius does:
there is one place to which its handle must not be led, the centre (`Drag.LeadsToCenter`).

With exact numbers this is the only way to lose the extent (`Reshaping.Whole.hasExtent_feed_iff`). -/

namespace ShapeOverlay

open Scalar

/-! ### Geometries with an extent -/

/-- **The geometry has an extent.** -/
def Geometry.HasExtent {α : Type} [Scalar α] : Geometry α → Prop
  | rectangle a b => a.x ≠ b.x ∧ a.y ≠ b.y
  | polygon vertices => 3 ≤ vertices.length
  | circle _ r => r ≠ .zero

section
variable {α : Type} [ExactScalar α] {g : Geometry α} {c t : Point α} {v : Viewport α}

theorem isZero_iff {r : Radius α} : r.isZero = true ↔ r = .zero := by
  obtain ⟨x, y⟩ := r
  simp [Radius.isZero, Radius.zero]

/-- **A draft can become a shape exactly if it has an extent.** -/
theorem isCommittable_iff_hasExtent {d : Drawing α} (h : d.draft? = some g) :
    d.isCommittable = true ↔ g.HasExtent := by
  cases Drawing.drafted h with
  | rectangle hkind hpoints =>
    rw [Drawing.isCommittable_rectangle hkind hpoints]
    simp [Geometry.HasExtent]
  | polygon hkind hpoints =>
    rw [Drawing.isCommittable_polygon hkind, hpoints, decide_eq_true_iff]
    exact Iff.rfl
  | circle hkind hpoints hradius =>
    rw [Drawing.isCommittable_circle hkind hpoints, hradius, Bool.not_eq_true',
      ← Bool.not_eq_true, isZero_iff]
    exact Iff.rfl

theorem hasExtent_translate (g : Geometry α) (d : Point α) :
    (g.translate d).HasExtent ↔ g.HasExtent := by
  cases g with
  | rectangle a b => simp [Geometry.translate, Geometry.HasExtent]
  | polygon ps => simp [Geometry.translate, Geometry.HasExtent]
  | circle c r => exact Iff.rfl

theorem between_eq_zero_iff : Radius.between c t = .zero ↔ t = c := by
  obtain ⟨cx, cy⟩ := c
  obtain ⟨tx, ty⟩ := t
  simp [Radius.between, Radius.zero, ExactScalar.abs_eq, sub_eq_zero]

end

/-! ### Drags -/

namespace Drag

/-- A radius that the drag may restore is one. -/
def KeepsRadius {α : Type} [Scalar α] : Drag α → Prop
  | radius _ _ grabbed => grabbed ≠ .zero
  | corner _ _ _ _ | vertex _ _ | mover _ => True

/-- **The drag leads the handle of a circle to its centre**, and the pointer is not where it was
pressed. -/
def LeadsToCenter {α : Type} [Scalar α] : Drag α → Geometry α → Point α → Prop
  | radius offset origin _, .circle c _, p => p ≠ origin ∧ p + offset = c
  | _, _, _ => False

theorem kind_apply {α : Type} [Scalar α] (d : Drag α) (g : Geometry α) (p : Point α)
    (v : Viewport α) : (d.apply g p v).kind = g.kind := by
  unfold apply
  split
  · rfl
  · rfl
  · rfl
  · unfold dragMover
    split
    · rfl
    · cases g <;> rfl
  · rfl

theorem keepsRadius_of_grabbed {α : Type} [Scalar α] {g : Geometry α} {part : EditPart}
    {d : Drag α} {p : Point α} {v : Viewport α} (hg : g.HasExtent) (h : Grabbed p v g part d) :
    d.KeepsRadius := by
  cases h with
  | radius c r => exact hg
  | corner a b c => trivial
  | vertex vertices i w hw => trivial
  | mover g b hb => trivial

section
variable {α : Type} [ExactScalar α]

/-- A coordinate that is dragged does not reach that of the other point. -/
theorem dragAxis_ne {pair : α × α} (h : pair.1 ≠ pair.2) (isMin : Bool) (s : Slot) (t : α) :
    (dragAxis isMin s t pair).1 ≠ (dragAxis isMin s t pair).2 := by
  rw [dragAxis_eq]
  split_ifs with hclear
  · have hne : t ≠ s.other.pick pair := by
      unfold StaysClear at hclear
      split_ifs at hclear
      · exact ne_of_lt hclear
      · exact ne_of_gt hclear
    cases s with
    | first => exact hne
    | second => exact hne.symm
  · exact h

end

variable {α : Type} [EuclideanScalar α] {g : Geometry α} {v : Viewport α} {d : Drag α}

/-- A circle without a radius fits wherever its centre lies on the surface. -/
theorem radiusAt?_center {c : Point α} (hc : c.InUnit) (hv : 0 ≤ v.width ∧ 0 ≤ v.height) :
    radiusAt? c c v = some .zero := by
  have hzero : Radius.between c c = .zero := between_eq_zero_iff.mpr rfl
  have heffective : (Radius.zero : Radius α).effective v = 0 := by
    show norm (0 * v.width) (0 * v.height) = 0
    rw [zero_mul, zero_mul, norm_zero_left, abs_zero]
  have hfits : v.fitsCircle c ((Radius.between c c).effective v) = true := by
    rw [hzero, heffective, fitsCircle_iff_comparisons, sub_zero, sub_zero, add_zero, add_zero]
    exact ⟨⟨mul_nonneg hc.1.1 hv.1, mul_le_of_le_one_left hv.1 hc.1.2⟩,
      mul_nonneg hc.2.1 hv.2, mul_le_of_le_one_left hv.2 hc.2.2⟩
  rw [← hzero]
  exact if_pos hfits

/-- **A move keeps the extent unless it leads the handle of a circle to its centre.** -/
theorem hasExtent_apply_iff (hg : g.OnSurface v)
    (hv : g.kind = .circle → 0 ≤ v.width ∧ 0 ≤ v.height) (hextent : g.HasExtent)
    (hd : d.KeepsRadius) (p : Point α) :
    (d.apply g p v).HasExtent ↔ ¬ d.LeadsToCenter g p := by
  unfold apply
  split
  · next c xSlot ySlot offset a b =>
    exact iff_of_true ⟨dragAxis_ne hextent.1 _ _ _, dragAxis_ne hextent.2 _ _ _⟩ id
  · next i offset vertices =>
    refine iff_of_true ?_ id
    simpa [Geometry.HasExtent] using hextent
  · next offset origin grabbed c r =>
    by_cases hback : p = origin
    · rw [if_pos (beq_iff_eq.mpr hback)]
      exact iff_of_true hd fun hleads => hleads.1 hback
    rw [if_neg (by simpa using hback)]
    by_cases hcenter : p + offset = c
    · rw [hcenter, radiusAt?_center hg.center (hv rfl)]
      exact iff_of_false (fun hzero => hzero rfl) fun hnot => hnot ⟨hback, hcenter⟩
    · refine iff_of_true ?_ fun hleads => hcenter hleads.2
      unfold radiusAt?
      dsimp only
      split_ifs
      · exact fun hzero => hcenter (between_eq_zero_iff.mp hzero)
      · exact hextent
  · next offset g =>
    obtain ⟨b, hb, -⟩ := hg.box
    rw [(dragMover_of_onSurface hg hb _).1, hasExtent_translate]
    exact iff_of_true hextent id
  · next hmatch =>
    refine iff_of_true hextent fun hleads => ?_
    unfold LeadsToCenter at hleads
    split at hleads
    · exact hmatch _ _ _ _ _ rfl rfl
    · exact hleads

end Drag

/-! ### Circles that can be stored -/

section
variable {α : Type} [ExactScalar α] {g : Geometry α} {v : Viewport α}

theorem nonneg_of_fitsCircle {c : Point α} {r : Radius α}
    (h : v.fitsCircle c (r.effective v) = true) : 0 ≤ v.width ∧ 0 ≤ v.height := by
  obtain ⟨⟨hleft, hright⟩, htop, hbottom⟩ := fitsCircle_iff_comparisons.mp h
  have heffective : 0 ≤ r.effective v := ExactScalar.norm_nonneg _ _
  have hleft : 0 ≤ c.x * v.width - r.effective v := hleft
  have htop : 0 ≤ c.y * v.height - r.effective v := htop
  have hright : c.x * v.width + r.effective v ≤ v.width := hright
  have hbottom : c.y * v.height + r.effective v ≤ v.height := hbottom
  constructor <;> linarith

/-- What can be stored lies on a surface where it fits, if it is a circle. -/
theorem Geometry.InUnitSquare.onSurface_of_fits (hg : g.InUnitSquare)
    (hfits : ∀ c r, g = .circle c r → v.fitsCircle c (r.effective v) = true) : g.OnSurface v := by
  cases g with
  | rectangle a b => exact hg.onSurface nofun v
  | polygon ps => exact hg.onSurface nofun v
  | circle c r =>
    cases hv : v.isEmpty with
    | false =>
      exact onSurface_circle_iff_box.mpr ⟨hg.radius, (fitsCircle_iff hv c r).mp (hfits c r rfl)⟩
    | true =>
      have hreach : r.reach v = .origin := if_pos hv
      obtain ⟨hx0, hx1⟩ := hg.coordinates c.x (by simp [Geometry.coordinates])
      obtain ⟨hy0, hy1⟩ := hg.coordinates c.y (by simp [Geometry.coordinates])
      rw [onSurface_circle, hreach]
      refine ⟨hg.radius, ⟨not_lt.mp hx0, ?_⟩, not_lt.mp hy0, ?_⟩
      · exact (add_zero c.x).trans_le (not_lt.mp hx1)
      · exact (add_zero c.y).trans_le (not_lt.mp hy1)

end

/-! ### Runs -/

namespace Reshaping

open Editing

/-- **The touch leads the handle of a circle to its centre.** -/
def LeadsToCenter {α : Type} [Scalar α] (r : Reshaping α) : Touch α → Prop
  | .move p _ => ∃ d, r.session.drag = some d ∧ d.LeadsToCenter r.geometry p
  | .down _ _ _ | .up | .click _ _ _ => False

theorem kind_feed {α : Type} [Scalar α] (r : Reshaping α) (t : Touch α) :
    (r.feed t).geometry.kind = r.geometry.kind := by
  cases t with
  | move p v =>
    cases hdrag : r.session.drag with
    | none => simp only [feed, pointerMove, hdrag]
    | some d => rw [(feed_move_of_drag hdrag (p, v)).2.1, Drag.kind_apply]
  | down p v slop => rfl
  | up => rfl
  | click p v slop => rfl

theorem kind_run {α : Type} [Scalar α] (r : Reshaping α) (touches : List (Touch α)) :
    (r.run touches).geometry.kind = r.geometry.kind := by
  induction touches using List.reverseRecOn with
  | nil => rfl
  | append_singleton touches t ih => rw [run_concat, kind_feed, ih]

theorem LeadsToCenter.kind {α : Type} [Scalar α] {r : Reshaping α} {t : Touch α}
    (h : r.LeadsToCenter t) : r.geometry.kind = .circle := by
  cases t with
  | move p v =>
    obtain ⟨d, -, hleads⟩ := h
    unfold Drag.LeadsToCenter at hleads
    split at hleads
    · next hgeometry => rw [hgeometry]; rfl
    · exact hleads.elim
  | down p v slop => exact h.elim
  | up => exact h.elim
  | click p v slop => exact h.elim

variable {α : Type} [EuclideanScalar α] {r : Reshaping α} {v : Viewport α} {t : Touch α}
variable {touches : List (Touch α)}

/-- The geometry lies on the surface and has an extent, and so has what the session may restore. -/
structure Whole (v : Viewport α) (r : Reshaping α) : Prop extends r.Sound v where
  surface : r.geometry.kind = .circle → 0 ≤ v.width ∧ 0 ≤ v.height
  extent : r.geometry.HasExtent
  radius : ∀ d, r.session.drag = some d → d.KeepsRadius

/-- **One event keeps the extent unless it leads the handle of a circle to its centre.** -/
theorem Whole.hasExtent_feed_iff (h : r.Whole v) (ht : t.IsOn v) :
    (r.feed t).geometry.HasExtent ↔ ¬ r.LeadsToCenter t := by
  cases t with
  | move p w =>
    cases ht
    cases hdrag : r.session.drag with
    | none =>
      have hsame : r.feed (.move p v) = r := by
        simp only [feed, pointerMove, hdrag]
      rw [hsame]
      refine iff_of_true h.extent ?_
      rintro ⟨d, hd, -⟩
      rw [hdrag] at hd
      cases hd
    | some d =>
      have hleads : r.LeadsToCenter (.move p v) ↔ d.LeadsToCenter r.geometry p := by
        simp [LeadsToCenter, hdrag]
      rw [(feed_move_of_drag hdrag (p, v)).2.1, hleads]
      exact Drag.hasExtent_apply_iff h.geometry h.surface h.extent (h.radius d hdrag) p
  | down p w slop => exact iff_of_true h.extent id
  | up => exact iff_of_true h.extent id
  | click p w slop => exact iff_of_true h.extent id

theorem Whole.feed (h : r.Whole v) (ht : t.IsOn v) (hextent : (r.feed t).geometry.HasExtent) :
    (r.feed t).Whole v where
  toSound := h.toSound.feed ht
  surface hkind := h.surface ((r.kind_feed t).symm.trans hkind)
  extent := hextent
  radius d hd := by
    cases t with
    | down p w slop =>
      rcases r.session.pointerDown_cases r.geometry p w slop with hignored | ⟨_, d', hd', hgrabbed⟩
      · simp only [Reshaping.feed, hignored] at hd
        exact h.radius d hd
      · simp only [Reshaping.feed, hgrabbed] at hd
        cases hd
        exact Drag.keepsRadius_of_grabbed h.extent hd'
    | move p w =>
      refine h.radius d ?_
      exact (drag_pointerMove r.session r.geometry p w).symm.trans hd
    | up => cases (drag_pointerUp r.session).symm.trans hd
    | click p w slop => exact h.radius d ((drag_click r.session r.geometry p w slop).symm.trans hd)

/-- A run keeps all of it if each of its events keeps the extent. -/
theorem Whole.run (h : r.Whole v) (ht : ∀ t ∈ touches, t.IsOn v)
    (hextent : ∀ before t, before ++ [t] <+: touches → (r.run before).Whole v →
      ((r.run before).feed t).geometry.HasExtent) : (r.run touches).Whole v := by
  induction touches using List.reverseRecOn with
  | nil => exact h
  | append_singleton touches t ih =>
    have hbefore : (r.run touches).Whole v := ih (fun u hu => ht u (by simp [hu]))
      fun before u hbegin => hextent before u (hbegin.trans (List.prefix_append touches [t]))
    rw [run_concat]
    exact hbefore.feed (ht t (by simp)) (hextent touches t List.prefix_rfl hbefore)

/-- **A run keeps the extent exactly as long as no event leads the handle of a circle to its
centre.** -/
theorem Whole.hasExtent_run_iff (h : r.Whole v) (ht : ∀ t ∈ touches, t.IsOn v) :
    (∀ before, before <+: touches → (r.run before).geometry.HasExtent) ↔
      ∀ before t, before ++ [t] <+: touches → ¬ (r.run before).LeadsToCenter t := by
  have hon : ∀ {before t}, before ++ [t] <+: touches → t.IsOn v :=
    fun hbegin => ht _ (hbegin.subset (by simp))
  have hrun : ∀ {before}, before <+: touches → ∀ t ∈ before, t.IsOn v :=
    fun hbegin t hmem => ht t (hbegin.subset hmem)
  constructor
  · intro hextent before t hbegin
    have hbefore := (List.prefix_append before [t]).trans hbegin
    have hwhole : (r.run before).Whole v := h.run (hrun hbefore) fun earlier u hearlier _ => by
      rw [← run_concat]
      exact hextent _ (hearlier.trans hbefore)
    rw [← hwhole.hasExtent_feed_iff (hon hbegin), ← run_concat]
    exact hextent _ hbegin
  · intro hleads before hbefore
    have hwhole : (r.run before).Whole v := h.run (hrun hbefore) fun earlier u hearlier hw =>
      (hw.hasExtent_feed_iff (hon (hearlier.trans hbefore))).mpr
        (hleads earlier u (hearlier.trans hbefore))
    exact hwhole.extent

/-- **What editing makes of an extent.** A rectangle and a polygon keep theirs, whatever the pointer
does on a surface. A circle that fits keeps its radius exactly as long as the pointer does not lead
its handle to the centre, unless the pointer is there where it was pressed. A draft of the same
geometry could be finished exactly if it has an extent. -/
theorem editing_keeps_extent {g : Geometry α} (hg : g.InUnitSquare) (hextent : g.HasExtent)
    (hfits : ∀ c r, g = .circle c r → v.fitsCircle c (r.effective v) = true)
    (target : Identifier) (ht : ∀ t ∈ touches, t.IsOn v) :
    (g.kind ≠ .circle → (run ⟨.start target, g⟩ touches).geometry.HasExtent) ∧
    ((∀ before, before <+: touches → (run ⟨.start target, g⟩ before).geometry.HasExtent) ↔
      ∀ before t, before ++ [t] <+: touches →
        ¬ (run ⟨.start target, g⟩ before).LeadsToCenter t) ∧
    ∀ d : Drawing α, d.draft? = some (run ⟨.start target, g⟩ touches).geometry →
      (d.isCommittable = true ↔ (run ⟨.start target, g⟩ touches).geometry.HasExtent) := by
  have hstart : Whole v ⟨.start target, g⟩ := by
    refine ⟨⟨hg.onSurface_of_fits hfits, nofun⟩, fun hkind => ?_, hextent, nofun⟩
    cases g with
    | circle c r => exact nonneg_of_fitsCircle (hfits c r rfl)
    | rectangle a b => cases hkind
    | polygon ps => cases hkind
  refine ⟨fun hkind => ?_, hstart.hasExtent_run_iff ht, fun d => isCommittable_iff_hasExtent⟩
  refine (hstart.hasExtent_run_iff ht).mpr (fun before t _ hleads => ?_) touches List.prefix_rfl
  exact hkind ((kind_run _ before).symm.trans hleads.kind)

theorem inUnitSquare_disc : disc.InUnitSquare := by
  refine ⟨nofun, fun a ha => ?_, fun a ha => ?_⟩
  · simp only [disc, Geometry.coordinates, List.mem_cons, List.not_mem_nil, or_false, or_self]
      at ha
    rw [ha]
    norm_num
  · simp only [disc, Geometry.extents, List.mem_cons, List.not_mem_nil, or_false] at ha
    rcases ha with rfl | rfl <;> norm_num

theorem hasExtent_disc : disc.HasExtent := by
  simp [disc, Geometry.HasExtent, Radius.zero]

theorem disc_fits : ∀ c r, disc = .circle c r → wide.fitsCircle c (r.effective wide) = true := by
  rintro c r ⟨⟩
  exact fitsCircle_disc

theorem editing_keeps_extent_disc :
    disc.InUnitSquare ∧ disc.HasExtent ∧
    (∀ c r, disc = .circle c r → wide.fitsCircle c (r.effective wide) = true) ∧
    (∀ t ∈ drawnOut, t.IsOn wide) ∧
    ((∀ before, before <+: drawnOut → (run ⟨.start .nil, disc⟩ before).geometry.HasExtent) ↔
      ∀ before t, before ++ [t] <+: drawnOut →
        ¬ (run ⟨.start .nil, disc⟩ before).LeadsToCenter t) ∧
    ∀ d : Drawing ℝ, d.draft? = some (run ⟨.start .nil, disc⟩ drawnOut).geometry →
      (d.isCommittable = true ↔ (run ⟨.start .nil, disc⟩ drawnOut).geometry.HasExtent) := by
  have ht : ∀ t ∈ drawnOut, t.IsOn wide := by simp [drawnOut, Editing.Touch.IsOn]
  exact ⟨inUnitSquare_disc, hasExtent_disc, disc_fits, ht,
    (editing_keeps_extent inUnitSquare_disc hasExtent_disc disc_fits .nil ht).2⟩

/-- The handle of the circle is dragged to its centre, and the circle is gone. -/
theorem circle_vanishes_at_center : ¬ ∀ (g : Geometry ℝ) (v : Viewport ℝ) (target : Identifier)
    (touches : List (Touch ℝ)), g.InUnitSquare → g.HasExtent →
    (∀ c r, g = .circle c r → v.fitsCircle c (r.effective v) = true) →
    (∀ t ∈ touches, t.IsOn v) → (run ⟨.start target, g⟩ touches).geometry.HasExtent := by
  intro h
  obtain ⟨d, hd, -, hfollow⟩ := exists_grabbed grabbed_disc
  have hdragged : (dragged (.start .nil) disc ⟨1 / 2, 1 / 4⟩ wide 8
      [(⟨1 / 2, 1 / 2⟩, wide)]).geometry.HasExtent :=
    h disc wide .nil _ inUnitSquare_disc hasExtent_disc disc_fits
      (by simp [Editing.Touch.IsOn])
  rw [(hfollow _).2] at hdragged
  have hd' := Drag.keepsRadius_of_grabbed hasExtent_disc hd
  refine (Drag.hasExtent_apply_iff onSurface_disc
    (fun _ => nonneg_of_fitsCircle fitsCircle_disc) hasExtent_disc hd' _).mp hdragged ?_
  cases hd
  have hhandle : radiusHandle ⟨1 / 2, 1 / 2⟩ ((⟨1 / 8, 0⟩ : Radius ℝ).effective wide) wide =
      ⟨1 / 2, 1 / 4⟩ := by
    simp only [effective_disc, radiusHandle, isEmpty_wide]
    norm_num [wide]
  rw [hhandle]
  refine ⟨by norm_num, ?_⟩
  exact congrArg₂ Point.mk (by norm_num) (by norm_num)

end Reshaping

end ShapeOverlay
