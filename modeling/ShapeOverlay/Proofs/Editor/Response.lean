import ShapeOverlay.Proofs.Editor.Outcome
import ShapeOverlay.Proofs.Session.Editing

/-! # What events do to the scene

An event is described by the session that receives it. What a drawing or an editing session makes of
an event depends on nothing but the session, the size of the foreground and, of the list, the
geometry of the shape that is edited (`Drawing.respond`, `Editing.respond`); `detected`, `drawn` and
`edited` say what is then left of the scene. There is one lemma `outcome_handle_*` for each session,
and `handled` puts them together. -/

namespace ShapeOverlay

/-! ### Sessions -/

namespace Drawing

/-- **What a drawing makes of an event** on a surface of a size. -/
def respond (d : Drawing Float) (v : Viewport Float) (id : Identifier) :
    Event → DrawingStep Float × Drawing Float
  | .down pixel .primary => d.pointerDown (v.toRelative pixel)
  | .move pixel => d.pointerMove (v.toRelative pixel) v
  | .up pixel .primary => d.pointerUp (v.toRelative pixel) v id
  | .doubleClick _ => d.doubleClick id
  | .down _ _ | .up _ _ | .click _ => (.ignored, d)

end Drawing

namespace Editing

/-- An editing session that goes on after an event, with the geometry of the shape and the cursor
after the event. `reported` says that the host is told of the geometry. -/
structure Response where
  session : Editing Float
  geometry : Geometry Float
  cursor : Cursor
  reported : Bool := false

/-- The cursor after a press with an outcome. -/
def grabCursor (before : Cursor) : EditingStep → Cursor
  | .grabbed .mover => .move
  | .grabbed (.handle _) => .grab
  | _ => before

/-- **What an editing session makes of an event** on a surface of a size; none if it is over. -/
def respond (t : Editing Float) (g : Geometry Float) (v : Viewport Float) (slop : Float)
    (c : Cursor) : Event → Option Response
  | .down pixel .primary =>
    let (step, t) := t.pointerDown g (v.toRelative pixel) v slop
    some { session := t, geometry := g, cursor := grabCursor c step }
  | .move pixel =>
    if t.isDragging then
      let (step, g, t) := t.pointerMove g (v.toRelative pixel) v
      some { session := t, geometry := g, cursor := c, reported := decide (step = .changed) }
    else some { session := t, geometry := g, cursor := g.cursorAt (v.toRelative pixel) v slop }
  | .up pixel .primary =>
    let (step, t) := t.pointerUp
    some
      { session := t
        geometry := g
        cursor := if step = .released then g.cursorAt (v.toRelative pixel) v slop else c }
  | .click pixel =>
    let (step, t) := t.click g (v.toRelative pixel) v slop
    if step = .finished then none else some { session := t, geometry := g, cursor := c }
  | .down _ _ | .up _ _ | .doubleClick _ => some { session := t, geometry := g, cursor := c }

/-- A response keeps the geometry, or is that to a move of the grabbed part. -/
theorem respond_cases {t : Editing Float} {g : Geometry Float} {v : Viewport Float} {slop : Float}
    {c : Cursor} {event : Event} {r : Response} (h : t.respond g v slop c event = some r) :
    (r.geometry = g ∧ r.session.target = t.target) ∨
      ∃ p, (r.geometry, r.session) = (t.pointerMove g p v).2 ∧
        r.reported = decide ((t.pointerMove g p v).1 = .changed) := by
  cases event with
  | down pixel button =>
    cases button <;> cases h
    · exact Or.inl ⟨rfl, target_pointerDown t g _ v slop⟩
    · exact Or.inl ⟨rfl, rfl⟩
    · exact Or.inl ⟨rfl, rfl⟩
  | move pixel =>
    rw [respond] at h
    split_ifs at h
    · cases h
      exact Or.inr ⟨v.toRelative pixel, rfl, rfl⟩
    · cases h
      exact Or.inl ⟨rfl, rfl⟩
  | up pixel button =>
    cases button <;> cases h
    · exact Or.inl ⟨rfl, target_pointerUp t⟩
    · exact Or.inl ⟨rfl, rfl⟩
    · exact Or.inl ⟨rfl, rfl⟩
  | click pixel =>
    rw [respond] at h
    dsimp only at h
    split_ifs at h with hfinished
    cases h
    exact Or.inl ⟨rfl, target_click t g _ v slop⟩
  | doubleClick pixel =>
    cases h
    exact Or.inl ⟨rfl, rfl⟩

theorem target_respond {t : Editing Float} {g : Geometry Float} {v : Viewport Float} {slop : Float}
    {c : Cursor} {event : Event} {r : Response} (h : t.respond g v slop c event = some r) :
    r.session.target = t.target := by
  obtain ⟨-, htarget⟩ | ⟨p, hmove, -⟩ := respond_cases h
  · exact htarget
  · rw [(Prod.mk.inj hmove).2, target_pointerMove]

/-- What the host is not told of leaves the geometry as it was but for the signs of zeros. -/
theorem alike_respond {t : Editing Float} {g : Geometry Float} {v : Viewport Float} {slop : Float}
    {c : Cursor} {event : Event} {r : Response} (h : t.respond g v slop c event = some r)
    (hr : r.reported = false) : r.geometry.Alike g := by
  obtain ⟨hg, -⟩ | ⟨p, hmove, hreported⟩ := respond_cases h
  · rw [hg]
    exact .refl g
  · rw [(Prod.mk.inj hmove).1]
    refine alike_pointerMove fun hchanged => ?_
    rw [hreported, decide_eq_false_iff_not] at hr
    exact hr hchanged

end Editing

namespace Editor

/-- The action that tells which shape is hovered. -/
def hovered (s : Store Float) (found : Option Nat) : List Action :=
  (found.bind fun i => (s.get? i).map fun shape => Action.hovered i shape.id).toList

/-- The action that tells which shape is selected. -/
def selected (s : Store Float) (found : Option Nat) : List Action :=
  (found.bind fun i => (s.get? i).map fun shape => Action.selected i shape.id).toList

/-! ### Events in detection -/

theorem outcome_handle_idle {e : Editor} (hs : e.session = .idle) (event : Event) :
    outcome (e.handle event) = (e.toScene, []) := by
  cases event <;> simp [handle, pointerDown, pointerMove, pointerUp, click, doubleClick, hs, outcome]

theorem hoveredAction_eq (e : Editor) : e.hoveredAction = hovered e.store e.hovered? := by
  unfold hoveredAction hovered
  cases e.hovered? <;> rfl

theorem outcome_detectMove (e : Editor) (d : Detection) (p : Point Float) :
    outcome (e.detectMove d p) =
      let found := Detection.shapeAt? e.store.shapes p e.foreground.viewport
      let cursor := if found.isSome then .pointer else .default
      ({ e.toScene with session := .detection ⟨found⟩, highlighted := none, cursor },
        e.cursor.change cursor ++ hovered e.store found) := by
  unfold detectMove
  dsimp only
  generalize hd : d.pointerMove e.store.shapes p e.foreground.viewport = d'
  have hset := outcome_setCursor
    { e with session := .detection d', highlighted := none }.paintForeground
    (if d'.selected.isSome then .pointer else .default)
  rw [toScene_paintForeground] at hset
  obtain ⟨hscene, hactions⟩ := Prod.mk.inj hset
  rw [outcome, hoveredAction_eq, hscene, hactions, ← hd]
  rfl

theorem outcome_detectClick (e : Editor) (d : Detection) :
    outcome (e.detectClick d) = (e.toScene, selected e.store d.selected) := by
  unfold detectClick selected Detection.click
  cases d.selected with
  | none => rfl
  | some i =>
    simp only [Option.bind_some]
    cases e.store.get? i <;> rfl

/-- What is left after an event in detection: a move finds the shape under the pointer, and a click
selects the one found last. -/
def detected (s : Scene) (v : Viewport Float) (d : Detection) : Event → Scene × List Action
  | .move pixel =>
    let found := Detection.shapeAt? s.store.shapes (v.toRelative pixel) v
    let cursor := if found.isSome then .pointer else .default
    ({ s with session := .detection ⟨found⟩, highlighted := none, cursor },
      s.cursor.change cursor ++ hovered s.store found)
  | .click _ => (s, selected s.store d.selected)
  | .down _ _ | .up _ _ | .doubleClick _ => (s, [])

/-- **What an event does in detection.** -/
theorem outcome_handle_detection {e : Editor} {d : Detection} (hs : e.session = .detection d)
    (event : Event) :
    outcome (e.handle event) = detected e.toScene e.foreground.viewport d event := by
  cases event with
  | down pixel button => simp [handle, pointerDown, hs, outcome, detected]
  | move pixel =>
    have hmove : e.handle (.move pixel) = e.detectMove d (e.pointAt pixel) := by
      simp only [handle, pointerMove, hs]
    rw [hmove, outcome_detectMove]
    rfl
  | up pixel button => simp [handle, pointerUp, hs, outcome, detected]
  | click pixel =>
    have hclick : e.handle (.click pixel) = e.detectClick d := by
      simp only [handle, click, hs]
    rw [hclick, outcome_detectClick]
    rfl
  | doubleClick pixel => simp [handle, doubleClick, hs, outcome, detected]

/-! ### Events while a shape is drawn -/

/-- What is left after the outcome of an event while a shape is drawn. -/
def drawn (s : Scene) : DrawingStep Float × Drawing Float → Scene × List Action
  | (.commit shape, d) =>
    match s.store.push shape with
    | some store =>
      ({ s with store, ids := s.ids.advance }.rested,
        .created s.store.size shape.clamped :: s.cursor.change .default)
    | none => ({ s with session := .drawing d, ids := s.ids.advance }, [])
  | (.ignored, d) | (.preview, d) => ({ s with session := .drawing d }, [])

/-- **What an event leaves while a shape is drawn**: the session goes on, or the shape is put in at the
end of the list and detection begins. -/
inductive Drawn (s : Scene) (y : Scene × List Action) : Prop where
  | goesOn (d : Drawing Float) (ids : IdSupply)
    (result : y = ({ s with session := .drawing d, ids }, []))
  | finished (shape : Shape Float) (ids : IdSupply)
    (result : y = ({ s with store := ⟨s.store.shapes ++ [shape]⟩, ids }.switched (.detection {}),
      .created s.store.size shape :: s.cursor.change .default))

theorem drawn_cases (s : Scene) (x : DrawingStep Float × Drawing Float) : Drawn s (drawn s x) := by
  obtain ⟨step, d⟩ := x
  cases step with
  | ignored | preview => exact .goesOn d s.ids rfl
  | commit shape =>
    cases hpush : s.store.push shape with
    | none =>
      refine .goesOn d s.ids.advance ?_
      simp only [drawn, hpush]
    | some store =>
      obtain ⟨-, rfl⟩ := Store.push_eq_some_iff.mp hpush
      have hne : ¬ (⟨s.store.shapes ++ [shape.clamped]⟩ : Store Float).isEmpty = true := by
        simp [Store.isEmpty]
      refine .finished shape.clamped s.ids.advance ?_
      simp only [drawn, hpush]
      rw [Scene.rested_of_not_isEmpty hne]

theorem outcome_drawEvent (e : Editor) (x : DrawingStep Float × Drawing Float) :
    outcome (e.drawEvent x) = drawn e.toScene x := by
  obtain ⟨step, d⟩ := x
  cases step with
  | ignored => rfl
  | preview =>
    show outcome ({ e with session := .drawing d }.paintForeground, []) = _
    rw [outcome, toScene_paintForeground]
    rfl
  | commit shape =>
    unfold drawEvent commit drawn
    dsimp only
    cases e.store.push shape with
    | none => rfl
    | some store =>
      dsimp only
      have hrest := outcome_rest
        ({ e with session := .drawing d, ids := e.ids.advance, store }.paintBackground.note
          .shapeCreated)
      rw [toScene_note, toScene_paintBackground] at hrest
      obtain ⟨hscene, hactions⟩ := Prod.mk.inj hrest
      rw [outcome, hscene, hactions]
      rfl

/-- While a shape is drawn, an event is left to the session. -/
theorem handle_drawing {e : Editor} {d : Drawing Float} (hs : e.session = .drawing d)
    (event : Event) :
    e.handle event = e.drawEvent (d.respond e.foreground.viewport e.ids.next event) := by
  have hkept : (e, []) = e.drawEvent (.ignored, d) := by
    rw [drawEvent, ← hs]
  cases event with
  | down pixel button =>
    cases button with
    | primary => simp [handle, pointerDown, hs, Drawing.respond, pointAt]
    | middle | secondary => simpa [handle, pointerDown, Drawing.respond] using hkept
  | move pixel => simp [handle, pointerMove, hs, Drawing.respond, pointAt]
  | up pixel button =>
    cases button with
    | primary => simp [handle, pointerUp, hs, Drawing.respond, pointAt]
    | middle | secondary => simpa [handle, pointerUp, Drawing.respond] using hkept
  | click pixel => simpa [handle, click, hs, Drawing.respond] using hkept
  | doubleClick pixel => simp [handle, doubleClick, hs, Drawing.respond]

/-- **What an event does while a shape is drawn.** -/
theorem outcome_handle_drawing {e : Editor} {d : Drawing Float} (hs : e.session = .drawing d)
    (event : Event) : outcome (e.handle event) =
      drawn e.toScene (d.respond e.foreground.viewport e.ids.next event) := by
  rw [handle_drawing hs, outcome_drawEvent]

/-! ### Events while a shape is edited -/

theorem editEvent_of_target {e : Editor} {i : Nat} {shape : Shape Float}
    (hi : e.editTarget? = some (i, shape)) (event : Nat → Shape Float → Editor × List Action) :
    e.editEvent event = event i shape := by
  rw [editEvent, hi]

/-- What is left after the response of an editing session to an event. -/
def edited (s : Scene) (i : Nat) (shape : Shape Float) :
    Option Editing.Response → Scene × List Action
  | none => (s.rested, .edited i shape :: .finished i shape.id :: s.cursor.change .default)
  | some r =>
    let shape := { shape with geometry := r.geometry }
    ({ s with
        session := .editing r.session
        store := s.store.modify i fun _ => shape
        cursor := r.cursor },
      (if r.reported then [.edited i shape] else []) ++ s.cursor.change r.cursor)

/-- A response that keeps the geometry changes the session and the cursor only. -/
theorem edited_of_geometry {s : Scene} {i : Nat} {shape : Shape Float}
    (hi : s.store.get? i = some shape) (t : Editing Float) (c : Cursor) :
    edited s i shape (some { session := t, geometry := shape.geometry, cursor := c }) =
      ({ s with session := .editing t, cursor := c }, s.cursor.change c) := by
  simp only [edited, Store.modify_of_get? hi]
  rfl

/-- After a response the shape is found under its identity, with the geometry of the response. -/
theorem activeShape?_edited {s : Scene} {id : Identifier} {i : Nat} {shape : Shape Float}
    (h : s.activeShape? id = some (i, shape)) (x : Option Editing.Response) :
    (edited s i shape x).1.activeShape? id =
      some (i, { shape with geometry := x.elim shape.geometry (·.geometry) }) := by
  cases x with
  | none => exact h
  | some r => exact Scene.activeShape?_modify h r.geometry rfl

theorem map_id_edited {s : Scene} {i : Nat} {shape : Shape Float}
    (hi : s.store.get? i = some shape) (x : Option Editing.Response) :
    (edited s i shape x).1.store.shapes.map (·.id) = s.store.shapes.map (·.id) := by
  cases x with
  | none => rfl
  | some r => exact Store.map_id_modify hi rfl

theorem outcome_editDown (e : Editor) (t : Editing Float) (shape : Shape Float) (p : Point Float) :
    outcome (e.editDown t shape p) =
      let x := t.pointerDown shape.geometry p e.foreground.viewport e.theme.handleRadius
      let c := Editing.grabCursor e.cursor x.1
      ({ e.toScene with session := .editing x.2, cursor := c }, e.cursor.change c) := by
  unfold editDown
  rcases t.pointerDown shape.geometry p e.foreground.viewport e.theme.handleRadius with
    ⟨_ | ⟨_ | _⟩ | _ | _ | _, t'⟩
  case grabbed.handle | grabbed.mover => exact outcome_setCursor _ _
  all_goals
    show outcome ({ e with session := .editing t' }, []) = _
    rw [← Cursor.change_self e.cursor]
    rfl

theorem outcome_editMove {e : Editor} {t : Editing Float} {i : Nat} {shape : Shape Float}
    (hs : e.session = .editing t) (hi : e.store.get? i = some shape) (pixel : Point Float) :
    outcome (e.editMove t i shape (e.pointAt pixel)) = edited e.toScene i shape
      (t.respond shape.geometry e.foreground.viewport e.theme.handleRadius e.cursor
        (.move pixel)) := by
  rw [editMove, Editing.respond, pointAt]
  by_cases hdrag : t.isDragging = true
  · rw [if_pos hdrag, if_pos hdrag]
    rcases t.pointerMove shape.geometry (e.foreground.viewport.toRelative pixel)
      e.foreground.viewport with ⟨step, g, t'⟩
    dsimp only [edited]
    rw [Cursor.change_self, List.append_nil]
    by_cases hstep : step = .changed
    · rw [if_pos hstep, if_pos (decide_eq_true hstep), outcome, toScene_paintForeground,
        toScene_paintBackground]
    · rw [if_neg hstep, if_neg (by simpa using hstep)]
      rfl
  · rw [if_neg hdrag, if_neg hdrag, outcome_setCursor, edited_of_geometry hi, ← hs]
    rfl

theorem outcome_editUp {e : Editor} (t : Editing Float) (shape : Shape Float) (p : Point Float) :
    outcome (e.editUp t shape p) =
      let c := if t.pointerUp.1 = .released then e.editCursor shape p else e.cursor
      ({ e.toScene with session := .editing t.pointerUp.2, cursor := c }, e.cursor.change c) := by
  unfold editUp
  rcases t.pointerUp with ⟨step, t'⟩
  dsimp only
  split_ifs with hstep
  · exact outcome_setCursor _ _
  · rw [Cursor.change_self]
    rfl

theorem outcome_editClick {e : Editor} {t : Editing Float} {i : Nat} {shape : Shape Float}
    (hi : e.store.get? i = some shape) (pixel : Point Float) :
    outcome (e.editClick t i shape (e.pointAt pixel)) = edited e.toScene i shape
      (t.respond shape.geometry e.foreground.viewport e.theme.handleRadius e.cursor
        (.click pixel)) := by
  rw [editClick, Editing.respond, pointAt]
  rcases t.click shape.geometry (e.foreground.viewport.toRelative pixel) e.foreground.viewport
    e.theme.handleRadius with ⟨step, t'⟩
  dsimp only
  split_ifs with hstep
  · have hrest := outcome_rest ({ e with session := .editing t' }.note .editFinished)
    obtain ⟨hscene, hactions⟩ := Prod.mk.inj hrest
    rw [outcome, hscene, hactions]
    rfl
  · rw [edited_of_geometry hi, Cursor.change_self]
    rfl

/-- **What an event does while a shape is edited** that is there and active. -/
theorem outcome_handle_editing {e : Editor} {t : Editing Float} {i : Nat} {shape : Shape Float}
    (hs : e.session = .editing t) (hi : e.editTarget? = some (i, shape)) (event : Event) :
    outcome (e.handle event) = edited e.toScene i shape
      (t.respond shape.geometry e.foreground.viewport e.theme.handleRadius e.cursor event) := by
  have hget := get?_of_editTarget? hi
  have hkept : outcome (e, ([] : List Action)) = edited e.toScene i shape
      (some { session := t, geometry := shape.geometry, cursor := e.cursor }) := by
    rw [edited_of_geometry hget, ← hs, Cursor.change_self]
    rfl
  cases event with
  | down pixel button =>
    cases button with
    | primary =>
      have hdown : e.handle (.down pixel .primary) = e.editDown t shape (e.pointAt pixel) := by
        simp [handle, pointerDown, hs, editEvent_of_target hi]
      rw [hdown, outcome_editDown, Editing.respond, edited_of_geometry hget]
      rfl
    | middle | secondary => simpa [handle, pointerDown, Editing.respond] using hkept
  | move pixel =>
    have hmove : e.handle (.move pixel) = e.editMove t i shape (e.pointAt pixel) := by
      simp [handle, pointerMove, hs, editEvent_of_target hi]
    rw [hmove, outcome_editMove hs hget]
  | up pixel button =>
    cases button with
    | primary =>
      have hup : e.handle (.up pixel .primary) = e.editUp t shape (e.pointAt pixel) := by
        simp [handle, pointerUp, hs, editEvent_of_target hi]
      rw [hup, outcome_editUp, Editing.respond, edited_of_geometry hget]
      rfl
    | middle | secondary => simpa [handle, pointerUp, Editing.respond] using hkept
  | click pixel =>
    have hclick : e.handle (.click pixel) = e.editClick t i shape (e.pointAt pixel) := by
      simp [handle, click, hs, editEvent_of_target hi]
    rw [hclick, outcome_editClick hget]
  | doubleClick pixel => simpa [handle, doubleClick, hs, Editing.respond] using hkept

/-- The event is one that an editing session looks at. -/
def isWatched : Event → Bool
  | .down _ button | .up _ button => button = .primary
  | .move _ | .click _ => true
  | .doubleClick _ => false

/-- **What an event does after the shape that was being edited got lost**: the session ends. -/
theorem outcome_handle_lost {e : Editor} {t : Editing Float} (hs : e.session = .editing t)
    (hi : e.editTarget? = none) (event : Event) :
    outcome (e.handle event) =
      if isWatched event then (e.toScene.rested, e.cursor.change .default) else (e.toScene, []) := by
  have hlost : ∀ f, outcome (e.editEvent f) = (e.toScene.rested, e.cursor.change .default) := by
    intro f
    rw [editEvent, hi]
    exact outcome_rest (e.note .targetLost)
  cases event with
  | down pixel button =>
    cases button with
    | primary => simpa [handle, pointerDown, hs, isWatched] using hlost _
    | middle | secondary => rfl
  | move pixel => simpa [handle, pointerMove, hs, isWatched] using hlost _
  | up pixel button =>
    cases button with
    | primary => simpa [handle, pointerUp, hs, isWatched] using hlost _
    | middle | secondary => rfl
  | click pixel => simpa [handle, click, hs, isWatched] using hlost _
  | doubleClick pixel => simp [handle, doubleClick, hs, isWatched, outcome]

/-! ### All events -/

/-- **What an event does**, by the session that receives it. -/
inductive Handled (e : Editor) (event : Event) (x : Scene × List Action) : Prop where
  | idle (session : e.session = .idle) (result : x = (e.toScene, []))
  | detection (d : Detection) (session : e.session = .detection d)
    (result : x = detected e.toScene e.foreground.viewport d event)
  | drawing (d : Drawing Float) (session : e.session = .drawing d)
    (result : x = drawn e.toScene (d.respond e.foreground.viewport e.ids.next event))
  | editing (t : Editing Float) (i : Nat) (shape : Shape Float) (session : e.session = .editing t)
    (target : e.editTarget? = some (i, shape))
    (result : x = edited e.toScene i shape
      (t.respond shape.geometry e.foreground.viewport e.theme.handleRadius e.cursor event))
  | lost (t : Editing Float) (session : e.session = .editing t) (target : e.editTarget? = none)
    (result : x = (e.toScene.rested, e.cursor.change .default) ∨ x = (e.toScene, []))

theorem handled (e : Editor) (event : Event) : Handled e event (outcome (e.handle event)) := by
  cases hs : e.session with
  | idle => exact .idle hs (outcome_handle_idle hs event)
  | detection d => exact .detection d hs (outcome_handle_detection hs event)
  | drawing d => exact .drawing d hs (outcome_handle_drawing hs event)
  | editing t =>
    cases hi : e.editTarget? with
    | none =>
      refine .lost t hs hi ?_
      rw [outcome_handle_lost hs hi]
      split_ifs
      · exact Or.inl rfl
      · exact Or.inr rfl
    | some target =>
      obtain ⟨i, shape⟩ := target
      exact .editing t i shape hs hi (outcome_handle_editing hs hi event)

end Editor

end ShapeOverlay
