import Mathlib.Data.List.Induction
import ShapeOverlay.Proofs.Editor.Taking
import ShapeOverlay.Proofs.Editor.UnitSquare
import ShapeOverlay.Proofs.Geometry.LeastBox

/-! # How values that are not numbers get into the list

An event may come with a pixel that is not made of numbers. Most sessions are proof against it, but
some take the point as it is (`Scene.Takes`).

A scene is `Numeric` if all numbers are numbers that are stored, that are drawn and that a drag may
restore. An event leaves such a scene numeric exactly if it does not hand a point over that is not
made of numbers (`Editor.Reached.numeric_handle_iff`), and from this it follows for every run of
events (`numbers_spoilt_by_taken_points`). What sessions have made sure of before they take a point
is an invariant of all runs (`Editor.Reached`). -/

namespace ShapeOverlay

open Scalar Binary64

/-! ### Boxes -/

theorem Bounds.has_around {c : Point Float} {rx ry : Float} (hc : c.Fits IsNumber)
    (hx : High IsNumber rx) (hy : High IsNumber ry) :
    (around c rx ry).min.Has IsNumber ∧ (around c rx ry).max.Has IsNumber :=
  ⟨⟨(domain_numbers.low_sub hc.1 hx).2, (domain_numbers.low_sub hc.2 hy).2⟩,
    domain_numbers.add hc.1 hx.2, domain_numbers.add hc.2 hy.2⟩

/-- **The box of a geometry made of numbers** has corners made of numbers. -/
theorem Geometry.Fits.exists_bounds? {g : Geometry Float} {v : Viewport Float}
    (hg : g.Fits IsNumber) (hv : v.Has fun w => w.isFinite = true) :
    ∃ b, g.bounds? v = some b ∧ b.min.Has IsNumber ∧ b.max.Has IsNumber := by
  cases g with
  | rectangle a b =>
    have hcorners := fits_corners hg.1 hg.2
    exact ⟨_, rfl, (hcorners _ (by simp [Bounds.corners])).has,
      (hcorners _ (by simp [Bounds.corners])).has⟩
  | polygon ps =>
    obtain ⟨p, rest, rfl⟩ := List.exists_cons_of_length_pos (Nat.lt_of_lt_of_le (by decide) hg.1)
    exact ⟨_, rfl, Bounds.has_ofPoints? hg.has rfl⟩
  | circle c r =>
    rw [bounds?]
    split_ifs with hempty
    · have hzero : High IsNumber 0 := domain_numbers.fits_zero.high
      exact ⟨_, rfl, Bounds.has_around hg.1 hzero hzero⟩
    · obtain ⟨hx, hy⟩ := hg.2.effective domain_numbers hv hempty
      exact ⟨_, rfl, Bounds.has_around hg.1 hx hy⟩

/-! ### Scenes -/

/-- What the session has made sure of before it takes a point. -/
def Session.Measured : Session → Prop
  | .idle | .detection _ => True
  | .drawing d => d.Measured
  | .editing t => t.Measured

/-- What is drawn and what a drag may restore is made of numbers. -/
def Session.Numeric : Session → Prop
  | .idle | .detection _ => True
  | .drawing d => d.Numeric
  | .editing t => t.Numeric

/-- **All that is stored, drawn or may be restored is made of numbers.** -/
structure Scene.Numeric (s : Scene) : Prop where
  store : ∀ shape ∈ s.store.shapes, shape.geometry.Has IsNumber
  session : s.session.Numeric

/-- **The event hands a point over that is taken as it is**, by the draft of a rectangle or a polygon
or by a vertex that is dragged. -/
def Scene.Takes (s : Scene) (event : Event) : Prop :=
  match s.session with
  | .idle | .detection _ => False
  | .drawing d => d.Takes event
  | .editing t => ∃ i shape, s.editTarget? = some (i, shape) ∧ t.Takes shape.geometry event

namespace Scene

variable {s : Scene}

theorem numeric_restingSession (s : Scene) : s.restingSession.Numeric := by
  unfold restingSession
  split_ifs <;> trivial

theorem measured_restingSession (s : Scene) : s.restingSession.Measured := by
  unfold restingSession
  split_ifs <;> trivial

theorem measured_settled (h : s.session.Measured) : s.settled.session.Measured := by
  have hshed : s.shedHighlight.session.Measured := h
  unfold settled adjusted
  split
  · split_ifs
    · exact hshed
    · exact measured_restingSession _
  · split_ifs
    · exact measured_restingSession _
    · trivial
  · exact hshed
  · split_ifs
    · exact hshed
    · exact measured_restingSession _

end Scene

namespace Editor

variable {e : Editor} {s : Scene}

/-! ### What every request keeps -/

/-- What holds of the scene after every run: the bounds of the unit square, and what sessions have
made sure of. -/
structure Reached (e : Editor) : Prop where
  fits : e.toScene.Fits fun _ => True
  measured : e.session.Measured

theorem measured_drawn {x : DrawingStep Float × Drawing Float} (hx : x.2.Measured) :
    (drawn s x).1.session.Measured := by
  obtain ⟨step, d⟩ := x
  cases step with
  | ignored | preview => exact hx
  | commit shape =>
    unfold drawn
    dsimp only
    cases s.store.push shape with
    | none => exact hx
    | some store => exact Scene.measured_restingSession _

theorem measured_handle (h : e.session.Measured) (event : Event) :
    (outcome (e.handle event)).1.session.Measured := by
  cases handled e event with
  | idle hs hx =>
    rw [hx]
    exact h
  | detection d hs hx =>
    rw [hx]
    cases event with
    | move pixel => trivial
    | down _ _ | up _ _ | click _ | doubleClick _ => exact h
  | drawing d hs hx =>
    rw [hs] at h
    rw [hx]
    exact measured_drawn (Drawing.Measured.respond h _ _ event)
  | editing t i shape hs hi hx =>
    rw [hs] at h
    rw [hx]
    cases hr : t.respond shape.geometry e.foreground.viewport e.theme.handleRadius e.cursor
      event with
    | none => exact Scene.measured_restingSession _
    | some r => exact Editing.Measured.respond h hr
  | lost t hs hi hx =>
    rcases hx with hx | hx <;> rw [hx]
    · exact Scene.measured_restingSession _
    · exact h

theorem measured_perform (h : e.session.Measured) (request : Request) :
    (outcome (e.perform request)).1.session.Measured := by
  cases request with
  | init shapes | reinit shapes =>
    simp only [perform, outcome, init, reinit, toScene_note, toScene_reset]
    exact Scene.measured_restingSession _
  | addShape shape =>
    rw [perform, outcome_map, outcome_addShape]
    cases e.store.push shape with
    | none => exact h
    | some store => exact Scene.measured_settled h
  | addShapes shapes =>
    rw [perform, outcome_map, outcome_addShapes]
    exact Scene.measured_settled h
  | redraw keep =>
    simp only [perform, outcome, toScene_redraw]
    split_ifs
    · exact h
    · exact Scene.measured_restingSession _
  | setStatus status selector =>
    rw [perform, outcome_map, outcome_setStatus]
    exact Scene.measured_settled h
  | setAttribute name value selector =>
    rw [perform, outcome_map, outcome_setAttribute]
    exact Scene.measured_settled h
  | delete selector =>
    rw [perform, outcome_map, outcome_delete]
    exact Scene.measured_settled h
  | setMode mode =>
    rw [perform, outcome_map, outcome_setMode]
    cases mode with
    | detect => exact Scene.measured_restingSession _
    | draw options => exact Or.inl rfl
    | edit target =>
      dsimp only
      cases e.resolve target with
      | none => exact h
      | some id => exact Editing.measured_start id
  | highlight i =>
    rw [perform, outcome_map, outcome_highlight]
    cases e.store.get? i <;> exact h
  | unhighlight =>
    simp only [perform, outcome, toScene_unhighlight]
    cases hs : e.session with
    | detection d => trivial
    | idle | drawing d | editing t =>
      rw [hs] at h
      exact h
  | resize v =>
    simp only [perform, outcome, toScene_resize]
    exact h
  | event event => exact measured_handle h event

theorem Reached.perform (h : Reached e) (request : Request) : Reached (e.perform request).1 where
  fits := fits_perform domain_all h.fits ⟨trivial, trivial⟩ request
    (request.has_of_forall (fun _ => trivial) fun _ => trivial)
  measured := measured_perform h.measured request

theorem Reached.run (h : Reached e) (requests : List Request) : Reached (e.run requests).1 :=
  run_keeps (fun _ r h => h.perform r) h requests

theorem reached_start (background foreground : Surface Float) (theme : Theme) (ids : IdSupply) :
    Reached (start background foreground theme ids) :=
  ⟨⟨Store.fits_empty, trivial⟩, trivial⟩

/-! ### One event -/

/-- A shape that is finished is stored, so its draft decides. -/
theorem numeric_drawn_iff (hs : ∀ shape ∈ s.store.shapes, shape.geometry.Has IsNumber)
    {x : DrawingStep Float × Drawing Float}
    (hcommit : ∀ shape, x.1 = .commit shape → (shape.geometry.Has IsNumber ↔ x.2.Numeric)) :
    (drawn s x).1.Numeric ↔ x.2.Numeric := by
  obtain ⟨step, d⟩ := x
  cases step with
  | ignored | preview => exact ⟨fun h => h.session, fun h => ⟨hs, h⟩⟩
  | commit shape =>
    unfold drawn
    dsimp only
    cases hpush : s.store.push shape with
    | none => exact ⟨fun h => h.session, fun h => ⟨hs, h⟩⟩
    | some store =>
      obtain ⟨-, rfl⟩ := Store.push_eq_some_iff.mp hpush
      have hshape : shape.clamped.geometry.Has IsNumber ↔ d.Numeric :=
        Geometry.has_clamped_iff.trans (hcommit shape rfl)
      rw [← hshape]
      constructor
      · exact fun h => h.store _ (List.mem_append_right _ (List.mem_singleton_self _))
      · exact fun h => ⟨List.forall_mem_append.mpr ⟨hs, List.forall_mem_singleton.mpr h⟩,
          Scene.numeric_restingSession _⟩

/-- The shape that is edited is stored, so its geometry decides. -/
theorem numeric_edited_iff (hs : ∀ shape ∈ s.store.shapes, shape.geometry.Has IsNumber) {i : Nat}
    {shape : Shape Float} (hi : s.store.get? i = some shape) {r : Editing.Response}
    (hr : r.session.Numeric) :
    (edited s i shape (some r)).1.Numeric ↔ r.geometry.Has IsNumber := by
  constructor
  · intro h
    have hget : (edited s i shape (some r)).1.store.get? i =
        some { shape with geometry := r.geometry } := by
      rw [edited, Store.get?_modify, hi, Option.map_some, if_pos rfl]
    exact h.store _ (Store.mem_of_get? hget)
  · intro h
    refine ⟨fun shape' hmem => ?_, hr⟩
    rcases Store.mem_modify hmem with hold | rfl
    · exact hs shape' hold
    · exact h

/-- **An event leaves a scene numeric exactly if no point is taken that is not made of numbers.** -/
theorem Reached.numeric_handle_iff (h : Reached e) (hn : e.toScene.Numeric)
    (hv : e.foreground.viewport.Has fun w => w.isFinite = true)
    (harea : e.foreground.viewport.isEmpty = false) (event : Event) :
    (e.handle event).1.toScene.Numeric ↔
      (e.toScene.Takes event → event.pixel.Has IsNumber) := by
  have hsession := hn.session
  have hmeasured := h.measured
  rw [← Viewport.has_toRelative_iff hv harea]
  change (outcome (e.handle event)).1.Numeric ↔ _
  cases handled e event with
  | idle hs hx =>
    rw [hx]
    exact iff_of_true hn (by simp [Scene.Takes, hs])
  | detection d hs hx =>
    rw [hx]
    refine iff_of_true ?_ (by simp [Scene.Takes, hs])
    cases event with
    | move pixel => exact ⟨hn.store, trivial⟩
    | down _ _ | up _ _ | click _ | doubleClick _ => exact hn
  | drawing d hs hx =>
    rw [hs] at hsession hmeasured
    have htakes : e.toScene.Takes event ↔ d.Takes event := by simp only [Scene.Takes, hs]
    rw [hx, htakes, numeric_drawn_iff hn.store fun shape =>
      Drawing.Measured.has_commit_iff hmeasured]
    exact Drawing.numeric_respond_iff hsession
  | editing t i shape hs hi hx =>
    rw [hs] at hsession hmeasured
    have hget := get?_of_editTarget? hi
    have hshape := hn.store _ (Store.mem_of_get? hget)
    have hgeometry := Geometry.fits_of_has (h.fits.target hi) hshape
    have htakes : e.toScene.Takes event ↔ t.Takes shape.geometry event := by
      simp [Scene.Takes, hs, hi]
    rw [hx, htakes]
    cases hr : t.respond shape.geometry e.foreground.viewport e.theme.handleRadius e.cursor
      event with
    | none =>
      refine iff_of_true ⟨hn.store, Scene.numeric_restingSession _⟩ fun ht => ?_
      cases event with
      | move pixel =>
        rw [Editing.respond] at hr
        split_ifs at hr
      | down _ _ | up _ _ | click _ | doubleClick _ => cases ht
    | some r =>
      rw [numeric_edited_iff hn.store hget (Editing.Numeric.respond hsession hshape hr)]
      exact Editing.has_respond_iff hv hmeasured hsession hgeometry hr
  | lost t hs hi hx =>
    refine iff_of_true ?_ (by simp [Scene.Takes, hs, hi])
    rcases hx with hx | hx <;> rw [hx]
    · exact ⟨hn.store, Scene.numeric_restingSession _⟩
    · exact hn

/-! ### Runs of events -/

theorem viewport_run_events (e : Editor) (events : List Event) :
    (e.run (events.map .event)).1.foreground.viewport = e.foreground.viewport :=
  run_induction (P := fun e' => e'.foreground.viewport = e.foreground.viewport)
    (Q := fun r => ∀ v, r ≠ .resize v) (fun _ _ h hr => (viewport_perform_of_ne hr).trans h)
    (by simp) rfl

theorem run_events_concat (e : Editor) (events : List Event) (event : Event) :
    (e.run ((events ++ [event]).map .event)).1 =
      ((e.run (events.map .event)).1.handle event).1 := by
  rw [List.map_append, List.map_singleton, run_concat]
  rfl

/-- **A run of events keeps a scene numeric exactly as long as no point is taken that is not made of
numbers.** -/
theorem Reached.numeric_run_iff (h : Reached e) (hn : e.toScene.Numeric)
    (hv : e.foreground.viewport.Has fun w => w.isFinite = true)
    (harea : e.foreground.viewport.isEmpty = false) {events : List Event} :
    (∀ before, before <+: events → (e.run (before.map .event)).1.toScene.Numeric) ↔
      ∀ before event, before ++ [event] <+: events →
        (e.run (before.map .event)).1.toScene.Takes event → event.pixel.Has IsNumber := by
  have hstep (before : List Event) (event : Event)
      (hbefore : (e.run (before.map .event)).1.toScene.Numeric) :
      (e.run ((before ++ [event]).map .event)).1.toScene.Numeric ↔
        ((e.run (before.map .event)).1.toScene.Takes event → event.pixel.Has IsNumber) := by
    rw [run_events_concat]
    refine (h.run _).numeric_handle_iff hbefore ?_ ?_ event <;> rwa [viewport_run_events]
  constructor
  · intro hnumeric before event hbegin
    have hbefore := (List.prefix_append before [event]).trans hbegin
    exact (hstep before event (hnumeric before hbefore)).mp (hnumeric _ hbegin)
  · intro htaken before
    induction before using List.reverseRecOn with
    | nil => exact fun _ => hn
    | append_singleton before event ih =>
      intro hbegin
      have hbefore := ih ((List.prefix_append before [event]).trans hbegin)
      exact (hstep before event hbefore).mpr (htaken before event hbegin)

/-- **What is not a number gets in by points that are taken as they are, and by nothing else.** In
every state that can be reached, with a foreground of a finite and positive size, let all that is
stored, drawn as a rectangle or a polygon or to be restored by the drag of a radius be made of
numbers. Then this stays so through a sequence of events exactly if `NaN` is in none of the pixels
that are handed to the draft of a rectangle or a polygon or to a vertex that is dragged; all other
pixels may hold it. So long every stored shape has a box, with corners that are made of numbers. -/
theorem numbers_spoilt_by_taken_points (background foreground : Surface Float) (theme : Theme)
    (ids : IdSupply) (requests : List Request) (events : List Event)
    (hstore : ∀ shape ∈ ((start background foreground theme ids).run requests).1.store.shapes,
      shape.geometry.Has fun a => a.isNaN = false)
    (hsession : ((start background foreground theme ids).run requests).1.session.Numeric)
    (hsize : ((start background foreground theme ids).run requests).1.foreground.viewport.Has
      fun w => w.isFinite = true ∧ 0 < w) :
    let after (events : List Event) :=
      (((start background foreground theme ids).run requests).1.run (events.map .event)).1
    ((∀ before, before <+: events → (after before).toScene.Numeric) ↔
      ∀ before event, before ++ [event] <+: events → (after before).toScene.Takes event →
        event.pixel.Has fun a => a.isNaN = false) ∧
    ∀ before, (after before).toScene.Numeric → ∀ shape ∈ (after before).store.shapes,
      (shape.geometry.Has fun a => a.isNaN = false) ∧
      ∃ b, shape.geometry.bounds? (after before).foreground.viewport = some b ∧
        (b.min.Has fun a => a.isNaN = false) ∧ b.max.Has fun a => a.isNaN = false := by
  intro after
  rw [← isNumber_eq] at hstore ⊢
  have hreached := (reached_start background foreground theme ids).run requests
  have hfinite : (after []).foreground.viewport.Has fun w => w.isFinite = true :=
    ⟨hsize.1.1, hsize.2.1⟩
  have harea : (after []).foreground.viewport.isEmpty = false := by
    have hw : ¬ (after []).foreground.viewport.width ≤ 0 := (OrderedScalar.lt_iff.mp hsize.1.2).2
    have hh : ¬ (after []).foreground.viewport.height ≤ 0 := (OrderedScalar.lt_iff.mp hsize.2.2).2
    simp [Viewport.isEmpty, hw, hh]
  refine ⟨hreached.numeric_run_iff ⟨hstore, hsession⟩ hfinite harea, fun before hn shape hmem => ?_⟩
  have hgeometry := hn.store shape hmem
  have hfits := Geometry.fits_of_has ((hreached.run _).fits.store shape hmem) hgeometry
  refine ⟨hgeometry, hfits.exists_bounds? ?_⟩
  rw [viewport_run_events]
  exact hfinite

/-- A circle is dragged out, and on the way the pointer is at no place. -/
def strayDrag : List Event :=
  [.down ⟨50, 50⟩ .primary, .move ⟨0 / 0, 50⟩, .up ⟨75, 50⟩ .primary]

theorem numbers_spoilt_by_taken_points_strayDrag :
    let e := ((start { viewport := ⟨100, 100⟩ } { viewport := ⟨100, 100⟩ } {}
      { source := fun _ => .nil }).run [.setMode (.draw { kind := .circle })]).1
    let after (events : List Event) := (e.run (events.map .event)).1
    (∀ shape ∈ e.store.shapes, shape.geometry.Has fun a => a.isNaN = false) ∧ e.session.Numeric ∧
    (e.foreground.viewport.Has fun w => w.isFinite = true ∧ 0 < w) ∧
    ((∀ before, before <+: strayDrag → (after before).toScene.Numeric) ↔
      ∀ before event, before ++ [event] <+: strayDrag → (after before).toScene.Takes event →
        event.pixel.Has fun a => a.isNaN = false) := by
  intro e after
  have hstore : ∀ shape ∈ e.store.shapes, shape.geometry.Has fun a => a.isNaN = false := nofun
  have hsession : e.session.Numeric := fun hkind => absurd rfl hkind
  have hsize : e.foreground.viewport.Has fun w => w.isFinite = true ∧ 0 < w := by decide +kernel
  exact ⟨hstore, hsession, hsize,
    (numbers_spoilt_by_taken_points _ _ _ _ _ _ hstore hsession hsize).1⟩

/-- A vertex is grabbed and led to no place. -/
theorem vertex_led_to_no_place : ¬ ∀ (background foreground : Surface Float) (theme : Theme)
    (ids : IdSupply) (requests : List Request) (events : List Event),
    let e := ((start background foreground theme ids).run requests).1
    (∀ shape ∈ e.store.shapes, shape.geometry.Has fun a => a.isNaN = false) →
    (e.foreground.viewport.Has fun w => w.isFinite = true ∧ 0 < w) →
    ∀ shape ∈ (e.run (events.map .event)).1.store.shapes,
      shape.geometry.Has fun a => a.isNaN = false := by
  intro h
  have hspoilt := h { viewport := ⟨100, 100⟩ } { viewport := ⟨100, 100⟩ } {}
    { source := fun _ => .nil }
    [.addShape { id := .nil, geometry := .polygon [⟨0.25, 0.25⟩, ⟨0.75, 0.25⟩, ⟨0.5, 0.75⟩] },
      .setMode (.edit (.index 0))]
    [.down ⟨25, 25⟩ .primary, .move ⟨0 / 0, 50⟩] (by decide +kernel) (by decide +kernel)
  revert hspoilt
  decide +kernel

end Editor

end ShapeOverlay
