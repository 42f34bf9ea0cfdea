import ShapeOverlay.Proofs.Editor.Response
import ShapeOverlay.Proofs.Store.Edits

/-! # Gestures

A gesture is made of events that reach one drawing or one editing session: an event goes on with the
session or ends it, and never begins one (`goesOn_handle`). What an event makes of a gesture depends
on the list for nothing but the shape that is edited. In two scenes with different lists the answers
are the same but for the place of the shape (`drawn_alike`), and for its attributes if these differ
(`edited_alike`). -/

namespace ShapeOverlay

/-! ### Actions -/

/-- The action with the place of its shape replaced, and the shape restyled. -/
def Action.relocated (place : Nat) (restyle : Shape Float → Shape Float) : Action → Action
  | .created _ shape => .created place (restyle shape)
  | .edited _ shape => .edited place (restyle shape)
  | .finished _ id => .finished place id
  | .hovered i id => .hovered i id
  | .selected i id => .selected i id
  | .cursor c => .cursor c

theorem Action.map_relocated_change (place : Nat) (restyle : Shape Float → Shape Float)
    (c d : Cursor) : (c.change d).map (relocated place restyle) = c.change d := by
  unfold Cursor.change
  split_ifs <;> rfl

/-- **Two answers to an event that are the same** but for the place of the shape and for its
attributes. -/
structure AnswersAlike (place : Nat) (restyle : Shape Float → Shape Float)
    (x y : Scene × List Action) : Prop where
  session : x.1.session = y.1.session
  cursor : x.1.cursor = y.1.cursor
  actions : x.2 = y.2.map (Action.relocated place restyle)

namespace Editor

/-! ### What events make of a gesture -/

/-- The session of a gesture goes on, or it ends. -/
inductive GoesOn : Session → Session → Prop where
  | drawing (d d' : Drawing Float) : GoesOn (.drawing d) (.drawing d')
  | editing {t t' : Editing Float} (target : t'.target = t.target) :
    GoesOn (.editing t) (.editing t')
  | idle (before : Session) : GoesOn before .idle
  | detection (before : Session) (d : Detection) : GoesOn before (.detection d)

theorem goesOn_rested (before : Session) (s : Scene) : GoesOn before s.rested.session := by
  have hsession : s.rested.session = s.restingSession := rfl
  rw [hsession]
  unfold Scene.restingSession
  split_ifs
  · exact .idle before
  · exact .detection before {}

theorem goesOn_detected {s : Scene} {d : Detection} (hs : s.session = .detection d)
    (before : Session) (v : Viewport Float) (event : Event) :
    GoesOn before (detected s v d event).1.session := by
  cases event with
  | move pixel => exact .detection _ _
  | down _ _ | up _ _ | click _ | doubleClick _ =>
    rw [detected, hs]
    exact .detection _ _

theorem goesOn_drawn (s : Scene) (d : Drawing Float) (x : DrawingStep Float × Drawing Float) :
    GoesOn (.drawing d) (drawn s x).1.session := by
  cases drawn_cases s x with
  | goesOn d' ids hy =>
    rw [hy]
    exact .drawing d d'
  | finished shape ids hy =>
    rw [hy]
    exact .detection _ _

/-- **No event begins a gesture.** -/
theorem goesOn_handle (e : Editor) (event : Event) :
    GoesOn e.session (outcome (e.handle event)).1.session := by
  cases handled e event with
  | idle hs hx =>
    rw [hx, hs]
    exact .idle _
  | detection d hs hx =>
    rw [hx]
    exact goesOn_detected hs _ _ event
  | drawing d hs hx =>
    rw [hx, hs]
    exact goesOn_drawn _ _ _
  | editing t i shape hs _ hx =>
    rw [hx, hs]
    cases hr : t.respond shape.geometry e.foreground.viewport e.theme.handleRadius e.cursor
      event with
    | none => exact goesOn_rested _ _
    | some r => exact .editing (Editing.target_respond hr)
  | lost t hs _ hx =>
    rcases hx with hx | hx <;> rw [hx]
    · exact goesOn_rested _ _
    · rw [hs]
      exact .editing rfl

theorem GoesOn.editing? {s u : Scene} {id : Identifier} (h : GoesOn s.session u.session)
    (hu : u.editing? = some id) : s.editing? = some id := by
  unfold Scene.editing? at hu ⊢
  generalize s.session = before at h
  generalize u.session = after at h hu
  cases h with
  | @editing t t' htarget =>
    have hu : some t'.target = some id := hu
    rw [htarget] at hu
    exact hu
  | drawing _ _ | idle _ | detection _ _ => cases hu

theorem GoesOn.mode {s u : Scene} (h : GoesOn s.session u.session) (hu : u.mode = .draw) :
    s.mode = .draw := by
  unfold Scene.mode at hu ⊢
  generalize s.session = before at h
  generalize u.session = after at h hu
  cases h with
  | drawing d d' => rfl
  | editing _ | idle _ | detection _ _ => cases hu

theorem drawing_of_mode {s : Scene} (h : s.mode = .draw) : ∃ d, s.session = .drawing d := by
  unfold Scene.mode at h
  cases hs : s.session with
  | drawing d => exact ⟨d, rfl⟩
  | idle | detection d | editing t =>
    rw [hs] at h
    cases h

theorem editing_of_editing? {s : Scene} {id : Identifier} (h : s.editing? = some id) :
    ∃ t, s.session = .editing t ∧ t.target = id := by
  unfold Scene.editing? at h
  cases hs : s.session with
  | editing t =>
    rw [hs] at h
    exact ⟨t, rfl, Option.some.inj h⟩
  | idle | detection d | drawing d =>
    rw [hs] at h
    cases h

/-! ### A shape is drawn -/

/-- The outcome of an event while a shape is drawn does not depend on the list, except for the place
of the shape. -/
theorem drawn_alike {s u : Scene} (hcursor : s.cursor = u.cursor) (hids : s.ids = u.ids)
    (x : DrawingStep Float × Drawing Float) :
    AnswersAlike s.store.size id (drawn s x) (drawn u x) ∧
      (drawn s x).1.ids = (drawn u x).1.ids := by
  obtain ⟨step, d⟩ := x
  cases step with
  | ignored | preview => exact ⟨⟨rfl, hcursor, rfl⟩, hids⟩
  | commit shape =>
    have hadvance := congrArg IdSupply.advance hids
    unfold drawn
    dsimp only
    -- Whether a shape is accepted depends on its geometry, not on the list.
    by_cases hcomplete : shape.geometry.isComplete = true
    · have hne : ∀ t : Store Float,
          ¬ (⟨t.shapes ++ [shape.clamped]⟩ : Store Float).isEmpty = true := by
        intro t
        simp [Store.isEmpty]
      simp only [Store.push, if_pos hcomplete]
      rw [Scene.rested_of_not_isEmpty (hne s.store), Scene.rested_of_not_isEmpty (hne u.store)]
      refine ⟨⟨rfl, rfl, ?_⟩, hadvance⟩
      rw [List.map_cons, Action.map_relocated_change, hcursor]
      rfl
    · simp only [Store.push, if_neg hcomplete]
      exact ⟨⟨rfl, hcursor, rfl⟩, hadvance⟩

theorem theme_drawn (s : Scene) (x : DrawingStep Float × Drawing Float) :
    (drawn s x).1.theme = s.theme := by
  cases drawn_cases s x with
  | goesOn d ids hy => rw [hy]
  | finished shape ids hy =>
    rw [hy]
    rfl

/-- The shape that the host is told of is put in at the end of the list. -/
theorem shapes_drawn_of_created {s : Scene} {x : DrawingStep Float × Drawing Float} {i : Nat}
    {shape : Shape Float} (h : .created i shape ∈ (drawn s x).2) :
    (drawn s x).1.store.shapes = s.store.shapes ++ [shape] := by
  cases drawn_cases s x with
  | goesOn d ids hy =>
    rw [hy] at h
    cases h
  | finished final ids hy =>
    rw [hy] at h ⊢
    rcases List.mem_cons.mp h with heq | hchange
    · cases heq
      rfl
    · unfold Cursor.change at hchange
      split_ifs at hchange
      · cases hchange
      · cases List.mem_singleton.mp hchange

/-! ### A shape is edited -/

theorem not_isEmpty_of_activeShape? {s : Scene} {id : Identifier} {i : Nat} {shape : Shape Float}
    (h : s.activeShape? id = some (i, shape)) : ¬ s.store.isEmpty = true := by
  obtain ⟨-, hshape, -⟩ := Scene.activeShape?_eq_some_iff.mp h
  have hmem := Store.mem_of_get? hshape
  intro hempty
  rw [Store.isEmpty, List.isEmpty_iff] at hempty
  rw [hempty] at hmem
  cases hmem

/-- What is left after a response does not depend on the list, except for the place of the shape and
its attributes. -/
theorem edited_alike {s u : Scene} {id : Identifier} {i j : Nat} {shape : Shape Float}
    {writes : List (String × Value)} (hcursor : s.cursor = u.cursor)
    (hs : s.activeShape? id = some (i, shape.restyled writes))
    (hu : u.activeShape? id = some (j, shape)) (x : Option Editing.Response) :
    AnswersAlike i (·.restyled writes) (edited s i (shape.restyled writes) x)
      (edited u j shape x) := by
  cases x with
  | none =>
    dsimp only [edited]
    rw [Scene.rested_of_not_isEmpty (not_isEmpty_of_activeShape? hs),
      Scene.rested_of_not_isEmpty (not_isEmpty_of_activeShape? hu)]
    refine ⟨rfl, rfl, ?_⟩
    rw [List.map_cons, List.map_cons, Action.map_relocated_change, hcursor, Shape.id_restyled]
    rfl
  | some r =>
    refine ⟨rfl, rfl, ?_⟩
    dsimp only [edited]
    rw [List.map_append, Action.map_relocated_change, hcursor]
    by_cases hr : r.reported = true
    · rw [if_pos hr, if_pos hr, List.map_singleton, Action.relocated,
        Shape.restyled_geometry r.geometry]
    · rw [if_neg hr, if_neg hr, List.map_nil]

end Editor

end ShapeOverlay
