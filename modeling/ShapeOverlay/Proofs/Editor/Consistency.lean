import ShapeOverlay.Proofs.Editor.Response
import ShapeOverlay.Proofs.Session.Detection
import ShapeOverlay.Proofs.Store.Identity

/-! # The session fits the list of shapes

An editor is idle while its list is empty and detects while it is not; detection has found an active
shape that is in the list, a highlight on request names a shape that is in the list, and the shape
that is edited is in the list and active as long as identities are distinct (`Scene.Consistent`).
Whatever ends a session or follows a change of the list leaves a consistent scene (`consistent_rested`,
`consistent_settled`), and so does every request (`consistent_perform`). Which actions an event gives
back follows from the mode in which it arrives and the mode that it leaves (`befits_handle`). -/

namespace ShapeOverlay

/-! ### Consistent scenes -/

/-- The session fits the list of shapes. -/
def Session.Suits (s : Scene) : Session → Prop
  | .idle => s.store.isEmpty = true
  | .detection d => s.store.isEmpty = false ∧ ∀ i, d.selected = some i →
      ∃ shape, s.store.get? i = some shape ∧ shape.isActive = true
  | .drawing _ => True
  | .editing t => s.store.DistinctIds → ∃ target, s.activeShape? t.target = some target

/-- **The session and the highlight on request fit the list of shapes.** -/
structure Scene.Consistent (s : Scene) : Prop where
  session : s.session.Suits s
  highlighted : ∀ id, s.highlighted = some id → (s.store.indexOf? id).isSome = true

namespace Scene

variable {s t : Scene}

theorem suits_congr (h : s.store = t.store) (session : Session) :
    session.Suits s ↔ session.Suits t := by
  have hactive : s.activeShape? = t.activeShape? := by
    funext id
    rw [activeShape?, activeShape?, h]
  cases session <;> simp only [Session.Suits, h, hactive]

theorem consistent_switched {next : Session} (h : next.Suits s) : (s.switched next).Consistent := by
  constructor
  · exact (suits_congr rfl next).mp h
  · intro id hid
    cases hid

/-- A session in which nothing is drawn or edited fits every list. -/
theorem suits_restingSession (s : Scene) : s.restingSession.Suits s := by
  by_cases hempty : s.store.isEmpty = true
  · rw [restingSession_of_isEmpty hempty]
    exact hempty
  · rw [restingSession_of_not_isEmpty hempty]
    refine ⟨by simpa using hempty, fun i hi => ?_⟩
    cases hi

theorem consistent_rested (s : Scene) : s.rested.Consistent :=
  consistent_switched (suits_restingSession s)

theorem consistent_adjusted (h : ∀ id, s.highlighted = some id → (s.store.indexOf? id).isSome = true) :
    s.adjusted.Consistent := by
  unfold adjusted
  cases hs : s.session with
  | idle =>
    dsimp only
    split_ifs with hempty
    · refine ⟨?_, h⟩
      rw [hs]
      exact hempty
    · exact consistent_rested s
  | detection d =>
    dsimp only
    split_ifs with hempty
    · exact consistent_rested s
    · refine ⟨⟨by simpa using hempty, fun i hi => ?_⟩, h⟩
      cases hi
  | drawing d =>
    refine ⟨?_, h⟩
    rw [hs]
    trivial
  | editing t =>
    dsimp only
    split_ifs with htarget
    · refine ⟨?_, h⟩
      rw [editTarget?, editing?, hs, Option.bind_some] at htarget
      rw [hs]
      exact fun _ => Option.isSome_iff_exists.mp htarget
    · exact consistent_rested s

/-- **Whatever the list has become, the scene brought in line with it is consistent.** -/
theorem consistent_settled (s : Scene) : s.settled.Consistent := by
  refine consistent_adjusted fun id hid => ?_
  obtain ⟨-, hsome⟩ := Option.filter_eq_some_iff.mp hid
  exact hsome

end Scene

/-! ### Detection -/

theorem Detection.isActive_of_shapeAt? {shapes : List (Shape Float)} {p : Point Float}
    {v : Viewport Float} {i : Nat} (h : Detection.shapeAt? shapes p v = some i) :
    ∃ shape, shapes[i]? = some shape ∧ shape.isActive = true := by
  obtain ⟨shape, hshape, hactive, -⟩ := isHit_iff.mp (isHit_of_shapeAt? h)
  exact ⟨shape, hshape, hactive⟩

namespace Editor

variable {e : Editor}

/-! ### Operations -/

theorem consistent_addShape (h : e.Consistent) (shape : Shape Float) :
    (outcome (e.addShape shape)).1.Consistent := by
  rw [outcome_addShape]
  cases e.store.push shape with
  | none => exact h
  | some store => exact Scene.consistent_settled _

/-- The shape that is to be edited stands somewhere in the list and is active. -/
theorem resolve_eq_some {target : EditTarget} {id : Identifier} (h : e.resolve target = some id) :
    ∃ i shape, e.store.get? i = some shape ∧ shape.isActive = true ∧ shape.id = id := by
  have hshape : ∀ found : Option (Shape Float),
      (found.bind fun shape => if shape.isActive then some shape.id else none) = some id →
      ∃ shape, found = some shape ∧ shape.isActive = true ∧ shape.id = id := by
    intro found hfound
    obtain ⟨shape, hshape, hid⟩ := Option.bind_eq_some_iff.mp hfound
    split_ifs at hid with hactive
    exact ⟨shape, hshape, hactive, Option.some.inj hid⟩
  cases target with
  | index i =>
    obtain ⟨shape, hi, hactive⟩ := hshape (e.store.get? i) h
    exact ⟨i, shape, hi, hactive⟩
  | id id =>
    obtain ⟨shape, hlookup, hactive⟩ := hshape (e.store.lookup id) h
    obtain ⟨i, -, hi⟩ := Option.bind_eq_some_iff.mp hlookup
    exact ⟨i, shape, hi, hactive⟩

theorem consistent_setMode (h : e.Consistent) (mode : ModeRequest) :
    (outcome (e.setMode mode)).1.Consistent := by
  rw [outcome_setMode]
  cases mode with
  | detect => exact Scene.consistent_rested _
  | draw options => exact Scene.consistent_switched trivial
  | edit target =>
    dsimp only
    cases hid : e.resolve target with
    | none => exact h
    | some id =>
      obtain ⟨i, shape, hi, hactive, rfl⟩ := resolve_eq_some hid
      refine Scene.consistent_switched fun hdistinct => ?_
      exact ⟨_, Scene.activeShape?_of_get? hdistinct hi hactive⟩

theorem consistent_highlight (h : e.Consistent) (i : Nat) :
    (outcome (e.highlight i)).1.Consistent := by
  rw [outcome_highlight]
  cases hi : e.store.get? i with
  | none => exact h
  | some shape =>
    refine ⟨(Scene.suits_congr rfl _).mp h.session, fun id hid => ?_⟩
    cases hid
    exact Store.isSome_indexOf?_iff.mpr ⟨shape, Store.mem_of_get? hi, rfl⟩

theorem consistent_unhighlight (h : e.Consistent) : e.unhighlight.toScene.Consistent := by
  rw [toScene_unhighlight]
  refine ⟨?_, fun id hid => by cases hid⟩
  have hsession := h.session
  cases hs : e.session with
  | detection d =>
    rw [hs] at hsession
    exact ⟨hsession.1, fun i hi => by cases hi⟩
  | idle | drawing d | editing t =>
    rw [hs] at hsession
    exact (Scene.suits_congr rfl _).mp hsession

/-! ### Events -/

theorem consistent_detected {s : Scene} (h : s.Consistent) {d : Detection}
    (hs : s.session = .detection d) (v : Viewport Float) (event : Event) :
    (detected s v d event).1.Consistent := by
  have hsession := h.session
  rw [hs] at hsession
  cases event with
  | move pixel =>
    refine ⟨⟨hsession.1, fun i hi => Detection.isActive_of_shapeAt? hi⟩, fun id hid => ?_⟩
    cases hid
  | down _ _ | up _ _ | click _ | doubleClick _ => exact h

theorem consistent_drawn {s : Scene} (h : s.Consistent) (x : DrawingStep Float × Drawing Float) :
    (drawn s x).1.Consistent := by
  cases drawn_cases s x with
  | goesOn d ids hy =>
    rw [hy]
    exact ⟨trivial, h.highlighted⟩
  | finished shape ids hy =>
    rw [hy]
    refine Scene.consistent_switched ⟨by simp [Store.isEmpty], fun i hi => ?_⟩
    cases hi

theorem consistent_edited {s : Scene} (h : s.Consistent) {t : Editing Float} {i : Nat}
    {shape : Shape Float} (hi : s.activeShape? t.target = some (i, shape))
    {x : Option Editing.Response} (hx : ∀ r, x = some r → r.session.target = t.target) :
    (edited s i shape x).1.Consistent := by
  obtain ⟨-, hshape, -⟩ := Scene.activeShape?_eq_some_iff.mp hi
  cases x with
  | none => exact Scene.consistent_rested s
  | some r =>
    constructor
    · intro _
      rw [hx r rfl]
      exact ⟨_, activeShape?_edited hi (some r)⟩
    · intro id hid
      rw [Store.indexOf?_congr (map_id_edited hshape (some r))]
      exact h.highlighted id hid

theorem consistent_handle (h : e.Consistent) (event : Event) :
    (outcome (e.handle event)).1.Consistent := by
  cases handled e event with
  | idle _ hx => rwa [hx]
  | detection d hs hx =>
    rw [hx]
    exact consistent_detected h hs _ event
  | drawing d _ hx =>
    rw [hx]
    exact consistent_drawn h _
  | editing t i shape hs hi hx =>
    rw [Scene.editTarget?, Scene.editing?, hs, Option.bind_some] at hi
    rw [hx]
    exact consistent_edited h hi fun r hr => Editing.target_respond hr
  | lost t _ _ hx =>
    rcases hx with hx | hx <;> rw [hx]
    · exact Scene.consistent_rested _
    · exact h

/-! ### Requests -/

/-- **Every request leaves a consistent scene consistent.** -/
theorem consistent_perform (h : e.Consistent) (request : Request) :
    (outcome (e.perform request)).1.Consistent := by
  cases request with
  | init shapes =>
    simp only [perform, outcome, init, toScene_note, toScene_reset]
    exact Scene.consistent_rested _
  | reinit shapes =>
    simp only [perform, outcome, reinit, toScene_note, toScene_reset]
    exact Scene.consistent_rested _
  | addShape shape => exact consistent_addShape h shape
  | addShapes shapes =>
    rw [perform, outcome_map, outcome_addShapes]
    exact Scene.consistent_settled _
  | redraw keep =>
    simp only [perform, outcome, toScene_redraw]
    split_ifs
    · exact h
    · exact Scene.consistent_rested _
  | setStatus status selector =>
    rw [perform, outcome_map, outcome_setStatus]
    exact Scene.consistent_settled _
  | setAttribute name value selector =>
    rw [perform, outcome_map, outcome_setAttribute]
    exact Scene.consistent_settled _
  | delete selector =>
    rw [perform, outcome_map, outcome_delete]
    exact Scene.consistent_settled _
  | setMode mode => exact consistent_setMode h mode
  | highlight i => exact consistent_highlight h i
  | unhighlight => exact consistent_unhighlight h
  | resize v =>
    simp only [perform, outcome, toScene_resize]
    exact h
  | event event => exact consistent_handle h event

/-! ### Actions -/

/-- The action is one that an event may give back which arrives in one mode and leaves another. -/
def Befits (before after : Mode) : Action → Prop
  | .hovered _ _ | .selected _ _ => before = .detect
  | .created _ _ => before = .draw ∧ after = .detect
  | .edited _ _ => before = .edit
  | .finished _ _ => before = .edit ∧ after ≠ .edit
  | .cursor _ => True

variable {before after : Mode} {action : Action}

theorem befits_of_mem_change {c d : Cursor} (h : action ∈ c.change d) :
    Befits before after action := by
  unfold Cursor.change at h
  split_ifs at h
  · cases h
  · rw [List.mem_singleton] at h
    rw [h]
    trivial

theorem befits_of_mem_hovered {s : Store Float} {found : Option Nat} (h : action ∈ hovered s found) :
    Befits .detect after action := by
  obtain ⟨i, -, hi⟩ := Option.bind_eq_some_iff.mp (Option.mem_toList.mp h)
  obtain ⟨shape, -, rfl⟩ := Option.map_eq_some_iff.mp hi
  rfl

theorem befits_of_mem_selected {s : Store Float} {found : Option Nat}
    (h : action ∈ selected s found) : Befits .detect after action := by
  obtain ⟨i, -, hi⟩ := Option.bind_eq_some_iff.mp (Option.mem_toList.mp h)
  obtain ⟨shape, -, rfl⟩ := Option.map_eq_some_iff.mp hi
  rfl

theorem befits_detected {s : Scene} {v : Viewport Float} {d : Detection} {event : Event}
    (h : action ∈ (detected s v d event).2) : Befits .detect after action := by
  cases event with
  | move pixel =>
    rcases List.mem_append.mp h with h | h
    · exact befits_of_mem_change h
    · exact befits_of_mem_hovered h
  | click pixel => exact befits_of_mem_selected h
  | down _ _ | up _ _ | doubleClick _ => cases h

theorem befits_drawn {s : Scene} {x : DrawingStep Float × Drawing Float}
    (h : action ∈ (drawn s x).2) : Befits .draw (drawn s x).1.mode action := by
  cases drawn_cases s x with
  | goesOn d ids hy =>
    rw [hy] at h
    cases h
  | finished shape ids hy =>
    rw [hy] at h ⊢
    rcases List.mem_cons.mp h with rfl | h
    · exact ⟨rfl, rfl⟩
    · exact befits_of_mem_change h

theorem befits_edited {s : Scene} {i : Nat} {shape : Shape Float} {x : Option Editing.Response}
    (h : action ∈ (edited s i shape x).2) : Befits .edit (edited s i shape x).1.mode action := by
  cases x with
  | none =>
    rcases List.mem_cons.mp h with rfl | h
    · rfl
    rcases List.mem_cons.mp h with rfl | h
    · refine ⟨rfl, fun hmode => ?_⟩
      rcases s.mode_rested with hrest | hrest <;> cases hmode.symm.trans hrest
    · exact befits_of_mem_change h
  | some r =>
    rcases List.mem_append.mp h with h | h
    · split_ifs at h
      · rw [List.mem_singleton] at h
        rw [h]
        rfl
      · cases h
    · exact befits_of_mem_change h

/-- **Every action befits** the mode in which its event arrives and the one that the event leaves. -/
theorem befits_handle (e : Editor) {event : Event}
    (h : action ∈ (outcome (e.handle event)).2) :
    Befits e.mode (outcome (e.handle event)).1.mode action := by
  rw [Scene.mode]
  cases handled e event with
  | idle _ hx =>
    rw [hx] at h
    cases h
  | detection d hs hx =>
    rw [hx] at h
    rw [hs]
    exact befits_detected h
  | drawing d hs hx =>
    rw [hx] at h ⊢
    rw [hs]
    exact befits_drawn h
  | editing t i shape hs _ hx =>
    rw [hx] at h ⊢
    rw [hs]
    exact befits_edited h
  | lost t _ _ hx =>
    rcases hx with hx | hx <;> rw [hx] at h
    · exact befits_of_mem_change h
    · cases h

/-! ### Runs -/

/-- What the mode says about the list and about events. An event that reaches an editing session
finds the shape that is edited as long as identities are distinct. -/
structure ModeFits (e : Editor) : Prop where
  idle : e.mode = .idle → e.store.isEmpty = true
  detect : e.mode = .detect → e.store.isEmpty = false
  hovered : ∀ i, e.hovered? = some i →
    i < e.store.size ∧ ∃ shape, e.store.get? i = some shape ∧ shape.isActive = true
  highlighted : ∀ id, e.highlighted = some id → ∃ shape ∈ e.store.shapes, shape.id = id
  edit : e.store.DistinctIds → e.mode = .edit → ∃ id i shape, e.editing? = some id ∧
    e.store.get? i = some shape ∧ shape.id = id ∧ shape.isActive = true ∧
    ∀ event : Nat → Shape Float → Editor × List Action, e.editEvent event = event i shape
  actions : ∀ event, ∀ action ∈ (e.handle event).2, Befits e.mode (e.handle event).1.mode action

theorem modeFits_of_consistent (h : e.Consistent) : ModeFits e := by
  have hsession := h.session
  refine ⟨?_, ?_, ?_, ?_, ?_, fun event action haction => befits_handle e haction⟩
  · intro hmode
    cases hs : e.session with
    | idle =>
      rw [hs] at hsession
      exact hsession
    | detection _ | drawing _ | editing _ =>
      rw [Scene.mode, hs] at hmode
      cases hmode
  · intro hmode
    cases hs : e.session with
    | detection d =>
      rw [hs] at hsession
      exact hsession.1
    | idle | drawing _ | editing _ =>
      rw [Scene.mode, hs] at hmode
      cases hmode
  · intro i hi
    rw [Scene.hovered?] at hi
    split at hi
    · next d hs =>
      rw [hs] at hsession
      obtain ⟨shape, hshape, hactive⟩ := hsession.2 i hi
      exact ⟨(List.getElem?_eq_some_iff.mp hshape).1, shape, hshape, hactive⟩
    · cases hi
  · intro id hid
    exact Store.isSome_indexOf?_iff.mp (h.highlighted id hid)
  · intro hdistinct hmode
    cases hs : e.session with
    | editing t =>
      rw [hs] at hsession
      obtain ⟨⟨i, shape⟩, hi⟩ := hsession hdistinct
      obtain ⟨-, hshape, hactive⟩ := Scene.activeShape?_eq_some_iff.mp hi
      have hediting : e.editing? = some t.target := by rw [Scene.editing?, hs]
      have htarget : e.editTarget? = some (i, shape) := by
        rw [Scene.editTarget?, hediting, Option.bind_some, hi]
      exact ⟨t.target, i, shape, hediting, hshape, Scene.id_of_activeShape? hi, hactive,
        editEvent_of_target htarget⟩
    | idle | detection _ | drawing _ =>
      rw [Scene.mode, hs] at hmode
      cases hmode

theorem consistent_run (background foreground : Surface Float) (theme : Theme) (ids : IdSupply)
    (requests : List Request) :
    ((start background foreground theme ids).run requests).1.Consistent := by
  have hstart : (start background foreground theme ids).Consistent :=
    ⟨rfl, fun id hid => by cases hid⟩
  exact run_keeps (P := fun e => e.Consistent) (fun _ r h => consistent_perform h r) hstart requests

/-- **The mode fits the list after every run**, and so do the actions of the next event. -/
theorem mode_fits_list (background foreground : Surface Float) (theme : Theme) (ids : IdSupply)
    (requests : List Request) :
    ModeFits ((start background foreground theme ids).run requests).1 :=
  modeFits_of_consistent (consistent_run background foreground theme ids requests)

end Editor

end ShapeOverlay
