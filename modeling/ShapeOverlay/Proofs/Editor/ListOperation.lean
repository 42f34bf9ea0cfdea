import ShapeOverlay.Proofs.Editor.Outcome
import ShapeOverlay.Proofs.Store.Edits

/-! # Operations on the list

An operation of the host on the list, or on the highlight, edits the list and brings session and
surfaces in line with it. Where a shape is being drawn, or one is edited that is still there, it
touches nothing else of the scene but the highlight (`perform_listOperation`). -/

namespace ShapeOverlay

/-! ### Requests -/

namespace Request

/-- The pointer does something. -/
def isEvent : Request → Bool
  | .event _ => true
  | _ => false

theorem eq_event {r : Request} (h : r.isEvent = true) : ∃ event, r = .event event := by
  cases r with
  | event event => exact ⟨event, rfl⟩
  | init _ | reinit _ | addShape _ | addShapes _ | redraw _ | setStatus _ _ | setAttribute _ _ _
  | delete _ | setMode _ | highlight _ | unhighlight | resize _ => cases h

/-- The host changes the list or the highlight, or has both surfaces painted anew. -/
def isListOperation : Request → Bool
  | .addShape _ | .addShapes _ | .delete _ | .setStatus _ _ | .setAttribute _ _ _ => true
  | .highlight _ | .unhighlight => true
  | .redraw keep => keep
  | .init _ | .reinit _ | .setMode _ | .resize _ | .event _ => false

theorem not_isEvent {r : Request} (h : r.isListOperation = true) : ¬ r.isEvent = true := by
  intro hevent
  obtain ⟨event, rfl⟩ := eq_event hevent
  cases h

/-- The attributes that a request writes. -/
def writes : Request → List (String × Value)
  | .setAttribute name value _ => [(name, value)]
  | _ => []

end Request

/-! ### Scenes -/

/-- A shape is being drawn, or one is edited that is there and active. -/
def Scene.Busy (s : Scene) : Prop :=
  match s.session with
  | .drawing _ => True
  | .editing t => (s.activeShape? t.target).isSome = true
  | .idle | .detection _ => False

theorem Scene.settled_of_busy {s : Scene} (h : s.Busy) : s.settled = s.shedHighlight := by
  have hsession : s.shedHighlight.session = s.session := rfl
  unfold settled adjusted
  unfold Busy at h
  cases hs : s.session with
  | idle | detection d =>
    rw [hs] at h
    exact h.elim
  | drawing d =>
    rw [hsession, hs]
  | editing t =>
    rw [hs] at h
    have htarget : s.shedHighlight.editTarget?.isSome = true := by
      rw [editTarget?, editing?, hsession, hs, Option.bind_some]
      exact h
    rw [hsession, hs]
    exact if_pos htarget

namespace Editor

variable {e : Editor} {request : Request}

/-- The list is changed, and nothing else but the highlight if a gesture is under way. -/
theorem listOperation_settled {store : Store Float} {writes : List (String × Value)} {s : Scene}
    (hs : s = { e.toScene with store }.settled) (hedit : Store.Edit writes e.store store) :
    Store.Edit writes e.store s.store ∧ ({ e.toScene with store := s.store }.Busy →
      ∃ highlighted, s = { e.toScene with store := s.store, highlighted }) := by
  have hstore : s.store = store := by rw [hs, Scene.store_settled]
  rw [hstore]
  refine ⟨hedit, fun hbusy => ?_⟩
  rw [Scene.settled_of_busy hbusy] at hs
  exact ⟨_, hs⟩

theorem listOperation_kept {highlighted : Option Identifier} {writes : List (String × Value)}
    {s : Scene} (hs : s = { e.toScene with highlighted }) :
    Store.Edit writes e.store s.store ∧ ({ e.toScene with store := s.store }.Busy →
      ∃ highlighted, s = { e.toScene with store := s.store, highlighted }) := by
  rw [hs]
  exact ⟨.refl, fun _ => ⟨highlighted, rfl⟩⟩

/-- **What an operation on the list does**: it edits the list, and it leaves a gesture alone that can
go on. -/
theorem perform_listOperation (hr : request.isListOperation = true) :
    Store.Edit request.writes e.store (e.perform request).1.store ∧
    ({ e.toScene with store := (e.perform request).1.store }.Busy → ∃ highlighted,
      (e.perform request).1.toScene =
        { e.toScene with store := (e.perform request).1.store, highlighted }) := by
  cases request with
  | addShape shape =>
    have hscene := congrArg Prod.fst (outcome_addShape e shape)
    cases hpush : e.store.push shape with
    | none =>
      rw [hpush] at hscene
      exact listOperation_kept hscene
    | some store =>
      rw [hpush] at hscene
      exact listOperation_settled hscene (Store.edit_push hpush)
  | addShapes shapes =>
    have hscene := congrArg Prod.fst (outcome_addShapes e shapes)
    exact listOperation_settled hscene (Store.edit_pushAll _ _)
  | setStatus status selector =>
    have hscene := congrArg Prod.fst (outcome_setStatus e status selector)
    refine listOperation_settled hscene (.updated _ _ (fun _ => rfl) fun shape hactive hstays => ?_)
    have hstatus : shape.status = status := (eq_of_beq hactive).trans (eq_of_beq hstays).symm
    exact ⟨[], .refl _, by rw [← hstatus]; rfl⟩
  | setAttribute name value selector =>
    have hscene := congrArg Prod.fst (outcome_setAttribute e name value selector)
    exact listOperation_settled hscene (.updated _ _ (fun shape => shape.id_withAttribute name value)
      fun shape _ _ => ⟨[(name, value)], .refl _, rfl⟩)
  | delete selector =>
    have hscene := congrArg Prod.fst (outcome_delete e selector)
    exact listOperation_settled hscene (Store.edit_remove _ _)
  | highlight i =>
    have hscene := congrArg Prod.fst (outcome_highlight e i)
    cases hi : e.store.get? i with
    | none =>
      rw [hi] at hscene
      exact listOperation_kept hscene
    | some shape =>
      rw [hi] at hscene
      exact listOperation_kept hscene
  | unhighlight =>
    have hscene : (e.perform .unhighlight).1.toScene = e.unhighlight.toScene := rfl
    rw [toScene_unhighlight] at hscene
    rw [hscene]
    refine ⟨.refl, fun hbusy => ⟨none, ?_⟩⟩
    -- Only detection forgets what it found, and that is no gesture.
    cases hs : e.session with
    | idle | detection d => simp only [Scene.Busy, hs] at hbusy
    | drawing d | editing t =>
      exact congrArg (fun session => ({ e.toScene with highlighted := none, session } : Scene))
        hs.symm
  | redraw keep =>
    have hkeep : keep = true := hr
    have hscene := toScene_redraw e keep
    rw [if_pos hkeep] at hscene
    exact listOperation_kept hscene
  | init _ | reinit _ | setMode _ | resize _ | event _ => cases hr

end Editor

end ShapeOverlay
