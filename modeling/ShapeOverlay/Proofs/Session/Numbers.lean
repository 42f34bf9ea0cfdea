import ShapeOverlay.Proofs.Scalar.Propagation
import ShapeOverlay.Proofs.Session.Finish
import ShapeOverlay.Proofs.Session.Overlay
import ShapeOverlay.Proofs.Session.RadiusDrag

/-! # Which sessions tell numbers from what is not a number

Comparisons fail wherever one side is not a number. So a test on coordinates that is passed tells
that they are numbers: a handle is near a point only if both are made of numbers (`has_of_isNear`),
and a circle fits on a surface only if its centre and its radius are (`has_of_fitsCircle`), as an
infinite radius does not fit either.

* A circle that is drawn is finished only after such a test (`Drawing.Measured`), while a rectangle
  and a polygon take their points as they are (`Drawing.has_iff_numeric`).
* The drags of a corner and of a radius test where they lead, and the mover falls back on the edge of
  the surface. The drag of a vertex tests nothing (`Drag.Takes`), and so it alone makes a geometry
  that is not made of numbers out of one that is (`Drag.has_apply_iff`). -/

namespace ShapeOverlay

open Scalar Binary64

variable {v : Viewport Float} {p q c : Point Float} {r : Radius Float} {g : Geometry Float}
variable {slop : Float}

/-! ### Tests -/

/-- **A circle that fits on a surface is made of numbers.** -/
theorem has_of_fitsCircle (h : v.fitsCircle c (r.effective v) = true) :
    c.Has IsNumber ∧ r.Has IsNumber := by
  obtain ⟨⟨hleft, -⟩, htop, -⟩ := fitsCircle_iff_comparisons.mp h
  have hne : r.effective v ≠ infinity := by
    intro hinfinite
    rw [hinfinite] at hleft
    exact not_nonneg_sub_infinity _ hleft
  obtain ⟨hx, hnorm⟩ := isNumber_of_sub (isNumber_of_le hleft).2
  obtain ⟨hy, -⟩ := isNumber_of_sub (isNumber_of_le htop).2
  obtain ⟨hrx, hry⟩ := isNumber_of_norm hnorm hne
  exact ⟨⟨(isNumber_of_mul hx).1, (isNumber_of_mul hy).1⟩,
    (isNumber_of_mul hrx).1, (isNumber_of_mul hry).1⟩

/-- **Points that are near each other are made of numbers.** -/
theorem has_of_isNear (h : Geometry.isNear v slop p q = true) :
    p.Has IsNumber ∧ q.Has IsNumber := by
  obtain ⟨hx, hy⟩ := Geometry.isNear_iff.mp h
  obtain ⟨hqx, hpx⟩ := isNumber_of_sub (isNumber_of_abs (isNumber_of_le hx).1)
  obtain ⟨hqy, hpy⟩ := isNumber_of_sub (isNumber_of_abs (isNumber_of_le hy).1)
  exact ⟨⟨(isNumber_of_mul hpx).1, (isNumber_of_mul hpy).1⟩,
    (isNumber_of_mul hqx).1, (isNumber_of_mul hqy).1⟩

/-! ### Drawing -/

namespace Drawing

variable {d : Drawing Float}

/-- **The draft of a circle is made of numbers once it has a radius.** No other draft has one. -/
def Measured (d : Drawing Float) : Prop :=
  d.radius = .zero ∨ d.options.kind = .circle ∧
    ∃ c rest, d.points = c :: rest ∧ c.Has IsNumber ∧ d.radius.Has IsNumber

/-- The points of the draft of a rectangle or a polygon are made of numbers. -/
def Numeric (d : Drawing Float) : Prop :=
  d.options.kind ≠ .circle → ∀ p ∈ d.points, p.Has IsNumber

theorem Measured.setEdge? (h : d.Measured) (hkind : d.options.kind = .circle) (p : Point Float)
    (v : Viewport Float) : ((d.setEdge? p v).getD d).Measured := by
  cases hedge : d.setEdge? p v with
  | none => exact h
  | some d' =>
    obtain ⟨c, rest, hpoints, hfits, rfl⟩ := setEdge?_eq_some_iff.mp hedge
    obtain ⟨hc, hradius⟩ := has_of_fitsCircle hfits
    exact Or.inr ⟨hkind, c, rest, hpoints, hc, hradius⟩

/-- Only a circle gets a radius. -/
theorem radius_feed (hkind : d.options.kind ≠ .circle) (input : Input Float) :
    (d.feed input).2.radius = d.radius := by
  cases hd : d.options.kind with
  | rectangle =>
    cases input with
    | down p =>
      rw [feed_down]
      split_ifs <;> rfl
    | move p v =>
      rw [feed_move_rectangle hd]
      split_ifs <;> rfl
    | up p v id =>
      rw [feed_up_rectangle hd]
      split_ifs <;> rfl
    | doubleClick id => simp only [feed, doubleClick, hd]
  | polygon =>
    cases input with
    | down p =>
      rw [feed_down]
      split_ifs <;> rfl
    | move p v =>
      rw [feed_move hd]
      unfold setLive
      split_ifs <;> rfl
    | up p v id =>
      rw [feed_up hd]
      split_ifs <;> rfl
    | doubleClick id =>
      rw [feed_doubleClick hd]
      rcases d.dropRepeated_cases with hsame | ⟨kept, a, b, -, -, hdrop⟩
      · rw [hsame]
      · rw [hdrop]
  | circle => exact absurd hd hkind

/-- **Whatever is fed, a circle gets a radius only by a test that tells numbers.** -/
theorem Measured.feed (h : d.Measured) (input : Input Float) : (d.feed input).2.Measured := by
  by_cases hkind : d.options.kind = .circle
  · cases input with
    | down p =>
      rw [feed_down]
      split_ifs with hstarted
      · exact h
      · rcases h with hzero | ⟨-, c, rest, hpoints, -⟩
        · exact Or.inl hzero
        · exact absurd (by simp [isStarted, hpoints]) hstarted
    | move p v =>
      rw [feed_move_circle hkind]
      exact h.setEdge? hkind p v
    | up p v id =>
      rw [feed_up_circle hkind]
      exact h.setEdge? hkind p v
    | doubleClick id => simpa only [Drawing.feed, doubleClick, hkind] using h
  · refine Or.inl ?_
    rw [radius_feed hkind]
    exact h.resolve_right fun hcircle => hkind hcircle.1

/-- **A draft that can become a shape is made of numbers** exactly if it is a circle or its points
are. -/
theorem has_iff_numeric (h : d.Measured) (hcommittable : d.isCommittable = true)
    (hdraft : d.draft? = some g) : g.Has IsNumber ↔ d.Numeric := by
  cases drafted hdraft with
  | rectangle hkind hpoints => simp [Numeric, Geometry.Has, hkind, hpoints]
  | polygon hkind hpoints => simp [Numeric, Geometry.Has, hkind, hpoints]
  | circle hkind hpoints hradius =>
    refine iff_of_true ?_ fun hne => absurd hkind hne
    rw [isCommittable_circle hkind hpoints] at hcommittable
    rcases h with hzero | ⟨-, c, rest, hmeasured, hc, hr⟩
    · rw [hzero, isZero_zero] at hcommittable
      cases hcommittable
    · rw [hmeasured] at hpoints
      cases hpoints
      exact ⟨hc, hradius ▸ hr⟩

end Drawing

/-! ### Geometries -/

theorem Point.fits_of_has (h : p.Fits fun _ => True) (hp : p.Has IsNumber) : p.Fits IsNumber :=
  ⟨⟨h.1.1, h.1.2.1, hp.1⟩, h.2.1, h.2.2.1, hp.2⟩

theorem Radius.fits_of_has (h : r.Fits fun _ => True) (hr : r.Has IsNumber) : r.Fits IsNumber :=
  ⟨⟨h.1.1, hr.1⟩, h.2.1, hr.2⟩

theorem Geometry.fits_of_has (h : g.Fits fun _ => True) (hg : g.Has IsNumber) :
    g.Fits IsNumber := by
  cases g with
  | rectangle a b => exact ⟨Point.fits_of_has h.1 hg.1, Point.fits_of_has h.2 hg.2⟩
  | polygon ps => exact ⟨h.1, fun p hp => Point.fits_of_has (h.2 p hp) (hg p hp)⟩
  | circle c r => exact ⟨Point.fits_of_has h.1 hg.1, Radius.fits_of_has h.2 hg.2⟩

theorem Geometry.Fits.has (h : g.Fits IsNumber) : g.Has IsNumber := by
  cases g with
  | rectangle a b => exact ⟨Point.Fits.has h.1, Point.Fits.has h.2⟩
  | polygon ps => exact fun p hp => (h.2 p hp).has
  | circle c r => exact ⟨Point.Fits.has h.1, Radius.Fits.has h.2⟩

theorem Point.has_add_iff (hp : p.Fits fun _ => True) (hq : q.Has IsNumber) :
    (p + q).Has IsNumber ↔ p.Has IsNumber :=
  ⟨fun h => (Point.has_of_add h).1, fun h => (Point.fits_of_has hp h).add domain_numbers hq⟩

/-! ### Drags -/

namespace Drag

variable {d : Drag Float}

/-- How far a vertex was from the pointer is made of numbers. -/
def Measured : Drag Float → Prop
  | .vertex _ offset => offset.Has IsNumber
  | .corner _ _ _ _ | .radius _ _ _ | .mover _ => True

/-- The radius that the drag may restore is made of numbers. -/
def Numeric : Drag Float → Prop
  | .radius _ _ grabbed => grabbed.Has IsNumber
  | .corner _ _ _ _ | .vertex _ _ | .mover _ => True

/-- **The drag takes the point to which it leads as it is.** -/
def Takes {α : Type} : Drag α → Geometry α → Prop
  | .vertex i _, .polygon vertices => i < vertices.length
  | _, _ => False

/-- A coordinate stays clear of the opposite one only if it is a number. -/
theorem isNumber_dragAxis {t a b : Float} (h : IsNumber a ∧ IsNumber b) (isMin : Bool) (s : Slot) :
    IsNumber (dragAxis isMin s t (a, b)).1 ∧ IsNumber (dragAxis isMin s t (a, b)).2 := by
  unfold dragAxis
  dsimp only
  split_ifs with hmin hclear hclear
  · exact put_of (isNumber_of_lt hclear).1 h s
  · exact h
  · exact put_of (isNumber_of_lt hclear).2 h s
  · exact h

theorem has_dragCorner {a b : Point Float} (ha : a.Has IsNumber) (hb : b.Has IsNumber) (c : Corner)
    (xSlot ySlot : Slot) (t : Point Float) :
    (dragCorner c xSlot ySlot t a b).Has IsNumber := by
  have hx := isNumber_dragAxis (t := t.x) ⟨ha.1, hb.1⟩ c.isMinX xSlot
  have hy := isNumber_dragAxis (t := t.y) ⟨ha.2, hb.2⟩ c.isMinY ySlot
  exact ⟨⟨hx.1, hy.1⟩, hx.2, hy.2⟩

theorem has_radiusAt? {t : Point Float} (h : radiusAt? c t v = some r) : r.Has IsNumber := by
  unfold radiusAt? at h
  dsimp only at h
  split_ifs at h with hfits
  cases h
  exact (has_of_fitsCircle hfits).2

/-- **A drag leaves a geometry made of numbers**, unless it takes a point that is not. -/
theorem has_apply_iff (hv : v.Has fun w => w.isFinite = true) (hd : d.Measured) (hn : d.Numeric)
    (hg : g.Fits IsNumber) (hp : p.Fits fun _ => True) :
    (d.apply g p v).Has IsNumber ↔ (d.Takes g → p.Has IsNumber) := by
  cases d with
  | corner c xSlot ySlot offset =>
    refine iff_of_true ?_ False.elim
    cases g with
    | rectangle a b => exact has_dragCorner hg.1.has hg.2.has c xSlot ySlot _
    | polygon ps | circle c r => exact hg.has
  | vertex i offset =>
    cases g with
    | polygon ps =>
      have hpoint : (p + offset).clamped.Has IsNumber ↔ p.Has IsNumber :=
        Point.has_clamped_iff.trans (Point.has_add_iff hp hd)
      constructor
      · exact fun h hi => hpoint.mp (h _ (List.mem_set hi _))
      · intro h q hq
        by_cases hi : i < ps.length
        · rcases List.mem_or_eq_of_mem_set hq with hq | rfl
          · exact hg.has q hq
          · exact hpoint.mpr (h hi)
        · rw [List.set_eq_of_length_le (Nat.le_of_not_lt hi)] at hq
          exact hg.has q hq
    | rectangle a b | circle c r => exact iff_of_true hg.has False.elim
  | radius offset origin grabbed =>
    refine iff_of_true ?_ False.elim
    cases g with
    | circle c r =>
      refine ⟨hg.1.has, ?_⟩
      split_ifs
      · exact hn
      · cases hradius : radiusAt? c (p + offset) v with
        | none => exact hg.2.has
        | some r' => exact has_radiusAt? hradius
    | rectangle a b | polygon ps => exact hg.has
  | mover offset =>
    refine iff_of_true ?_ False.elim
    exact (fits_dragMover domain_numbers hv hg (p + offset)).has

end Drag

/-! ### Editing -/

namespace Editing

variable {e : Editing Float}

/-- A drag under way has been measured. -/
def Measured (e : Editing Float) : Prop := ∀ d, e.drag = some d → d.Measured

/-- What a drag under way may restore is made of numbers. -/
def Numeric (e : Editing Float) : Prop := ∀ d, e.drag = some d → d.Numeric

theorem measured_start (target : Identifier) : (Editing.start target : Editing Float).Measured := by
  intro d hd
  cases hd

/-- **A vertex is grabbed only near the pointer**, so the pointer and the vertex are numbers. -/
theorem measured_pointerDown (he : e.Measured) (hp : p.Fits fun _ => True) :
    (e.pointerDown g p v slop).2.Measured := by
  unfold pointerDown
  split
  · exact he
  · next part hpart =>
    split
    · exact he
    · next d hd =>
      rintro _ ⟨⟩
      cases Drag.grabbed_of_ofPart? hd with
      | vertex vertices i place hplace =>
        obtain ⟨near, hfind⟩ := Geometry.hitPart?_eq_handle_iff_find?.mp hpart
        have hfound := List.find?_some hfind
        obtain ⟨hpointer, hnear⟩ := has_of_isNear hfound
        obtain ⟨j, hj, heq⟩ := List.mem_mapIdx.mp
          (List.mem_reverse.mp (List.mem_of_find?_eq_some hfind))
        cases heq
        obtain ⟨-, rfl⟩ := List.getElem?_eq_some_iff.mp hplace
        exact hnear.sub domain_numbers (Point.fits_of_has hp hpointer)
      | corner | radius | mover => trivial

/-- The radius of a geometry made of numbers may be restored. -/
theorem numeric_pointerDown (he : e.Numeric) (hg : g.Has IsNumber) :
    (e.pointerDown g p v slop).2.Numeric := by
  rcases e.pointerDown_cases g p v slop with hignored | ⟨part, d, hgrabbed, hdown⟩
  · rw [hignored]
    exact he
  · rw [hdown]
    rintro _ ⟨⟩
    cases hgrabbed with
    | radius center r => exact hg.2
    | corner | vertex | mover => trivial

end Editing

end ShapeOverlay
