import ShapeOverlay.Proofs.Editor.Frame

/-! # What operations do to the scene

What becomes of the scene of an editor, and what it replies, follows from the scene and from the
size of the foreground. `outcome` leaves the surfaces and the journal out of what an operation or
an event gives back, and the lemmas `outcome_*` and `toScene_*` say what is left. Two notions carry
them: a scene whose session is replaced (`Scene.switched`), and one that is brought in line with a
changed list (`Scene.settled`). -/

namespace ShapeOverlay

/-! ### Scenes -/

/-- The action that tells of another cursor than before. -/
def Cursor.change (before after : Cursor) : List Action :=
  if before = after then [] else [.cursor after]

@[simp] theorem Cursor.change_self (c : Cursor) : c.change c = [] := if_pos rfl

theorem Cursor.eq_of_mem_change {before after : Cursor} {action : Action}
    (h : action ∈ before.change after) : action = .cursor after := by
  unfold change at h
  split_ifs at h
  · cases h
  · exact List.mem_singleton.mp h

namespace Scene

/-- The scene with its session ended and another one begun. -/
def switched (s : Scene) (next : Session) : Scene :=
  { s with session := next, highlighted := none, cursor := next.firstCursor }

/-- The scene with its session ended and nothing drawn or edited. -/
def rested (s : Scene) : Scene := s.switched s.restingSession

/-- The scene without a highlight on request whose shape is not in the list. -/
def shedHighlight (s : Scene) : Scene :=
  { s with highlighted := s.highlighted.filter fun id => (s.store.indexOf? id).isSome }

/-- The scene with its session brought in line with a changed list. -/
def adjusted (s : Scene) : Scene :=
  match s.session with
  | .idle => if s.store.isEmpty then s else s.rested
  | .detection _ => if s.store.isEmpty then s.rested else { s with session := .detection {} }
  | .drawing _ => s
  | .editing _ => if s.editTarget?.isSome then s else s.rested

/-- **The scene brought in line with a changed list.** -/
def settled (s : Scene) : Scene := s.shedHighlight.adjusted

theorem restingSession_of_isEmpty {s : Scene} (h : s.store.isEmpty = true) :
    s.restingSession = .idle := by
  rw [restingSession, if_pos h]

theorem restingSession_of_not_isEmpty {s : Scene} (h : ¬ s.store.isEmpty = true) :
    s.restingSession = .detection {} := by
  rw [restingSession, if_neg h]

theorem rested_of_not_isEmpty {s : Scene} (h : ¬ s.store.isEmpty = true) :
    s.rested = s.switched (.detection {}) := by
  rw [rested, restingSession_of_not_isEmpty h]

theorem firstCursor_restingSession (s : Scene) : s.restingSession.firstCursor = .default := by
  unfold restingSession
  split_ifs <;> rfl

theorem mode_rested (s : Scene) : s.rested.mode = .idle ∨ s.rested.mode = .detect := by
  unfold rested restingSession
  split_ifs
  · exact Or.inl rfl
  · exact Or.inr rfl

@[simp] theorem store_adjusted (s : Scene) : s.adjusted.store = s.store := by
  unfold adjusted
  cases s.session with
  | drawing d => rfl
  | idle | detection d | editing t =>
    dsimp only
    split_ifs <;> rfl

@[simp] theorem store_settled (s : Scene) : s.settled.store = s.store :=
  store_adjusted s.shedHighlight

end Scene

namespace Editor

/-! ### Outcomes -/

/-- What an operation or an event leaves apart from the surfaces and the journal. -/
def outcome {β : Type} (x : Editor × β) : Scene × β := (x.1.toScene, x.2)

theorem outcome_map {β γ : Type} (x : Editor × β) (f : β → γ) :
    outcome (x.map id f) = (outcome x).map id f := rfl

theorem outcome_setCursor (e : Editor) (c : Cursor) :
    outcome (e.setCursor c) = ({ e.toScene with cursor := c }, e.cursor.change c) := by
  unfold setCursor Cursor.change
  split_ifs with h
  · rw [← h]
    rfl
  · rfl

theorem outcome_switchTo (e : Editor) (next : Session) :
    outcome (e.switchTo next) = (e.toScene.switched next, e.cursor.change next.firstCursor) := by
  unfold switchTo
  rw [outcome_setCursor, toScene_paintForeground]
  rfl

theorem outcome_rest (e : Editor) :
    outcome e.rest = (e.toScene.rested, e.cursor.change .default) := by
  unfold rest
  rw [outcome_switchTo, Scene.firstCursor_restingSession]
  rfl

theorem toScene_switchTo (e : Editor) (next : Session) :
    (e.switchTo next).1.toScene = e.toScene.switched next :=
  congrArg Prod.fst (outcome_switchTo e next)

theorem toScene_rest (e : Editor) : e.rest.1.toScene = e.toScene.rested :=
  congrArg Prod.fst (outcome_rest e)

/-! ### Changes of the list -/

theorem toScene_adjustSession (e : Editor) :
    e.adjustSession.toScene = e.toScene.adjusted := by
  unfold adjustSession Scene.adjusted
  cases e.session with
  | idle =>
    dsimp only
    split_ifs with hempty
    · exact toScene_paintForeground e
    · rw [toScene_switchTo, Scene.rested, Scene.restingSession_of_not_isEmpty hempty]
  | detection d =>
    dsimp only
    split_ifs with hempty
    · rw [toScene_switchTo, Scene.rested, Scene.restingSession_of_isEmpty hempty]
    · rw [toScene_paintForeground]
      rfl
  | drawing d => exact toScene_paintForeground e
  | editing t =>
    dsimp only
    split_ifs
    · exact toScene_paintForeground e
    · rw [endLostEdit, toScene_rest, toScene_note]

theorem toScene_afterListChange (e : Editor) : e.afterListChange.toScene = e.toScene.settled := by
  have hshed : e.paintBackground.dropLostHighlight.toScene = e.toScene.shedHighlight := by
    rw [dropLostHighlight, toScene_paintBackground]
    rfl
  rw [afterListChange, toScene_adjustSession, hshed]
  rfl

/-- The list is changed and the scene brought in line with it. -/
theorem outcome_afterListChange {β : Type} (e : Editor) (store : Store Float) (n : Notice) (b : β) :
    outcome (({ e with store }.note n).afterListChange, b) =
      ({ e.toScene with store }.settled, b) := by
  rw [outcome, toScene_afterListChange, toScene_note]

/-! ### Operations -/

theorem toScene_reset (e : Editor) (shapes : List (Shape Float)) :
    (e.reset shapes).toScene =
      { e.toScene with store := ((.empty : Store Float).pushAll shapes).1 }.rested := by
  rw [reset, toScene_rest, toScene_paintBackground]
  rfl

theorem outcome_addShape (e : Editor) (shape : Shape Float) :
    outcome (e.addShape shape) = match e.store.push shape with
      | some store => ({ e.toScene with store }.settled, some e.store.size)
      | none => (e.toScene, none) := by
  unfold addShape
  cases e.store.push shape with
  | none => rfl
  | some store => exact outcome_afterListChange e store _ _

theorem outcome_addShapes (e : Editor) (shapes : List (Shape Float)) :
    outcome (e.addShapes shapes) =
      ({ e.toScene with store := (e.store.pushAll shapes).1 }.settled,
        (e.store.pushAll shapes).2.filterMap id) := by
  unfold addShapes
  rw [outcome, toScene_afterListChange, toScene_note]
  rfl

theorem outcome_setStatus (e : Editor) (status : Status) (selector : Selector) :
    outcome (e.setStatus status selector) =
      ({ e.toScene with
          store := e.store.update (e.store.select selector) fun s => { s with status } }.settled,
        (e.store.select selector).length) :=
  outcome_afterListChange e _ _ _

/-- The places of the picked out shapes on which an attribute can be written. -/
def written (s : Store Float) (name : String) (value : Value) (selector : Selector) : List Nat :=
  (s.select selector).filter fun i =>
    (s.get? i).any fun shape => (shape.setAttribute name value).isOk

theorem outcome_setAttribute (e : Editor) (name : String) (value : Value) (selector : Selector) :
    outcome (e.setAttribute name value selector) =
      ({ e.toScene with
          store := e.store.update (written e.store name value selector) fun s =>
            s.withAttribute name value }.settled,
        (written e.store name value selector).length) := by
  unfold setAttribute written
  rw [List.partition_eq_filter_filter]
  dsimp only
  rw [outcome, toScene_afterListChange, toScene_note]

theorem outcome_delete (e : Editor) (selector : Selector) :
    outcome (e.delete selector) =
      ({ e.toScene with store := (e.store.remove selector).2 }.settled,
        (e.store.remove selector).1) := by
  unfold delete
  dsimp only
  rw [outcome, toScene_afterListChange]
  split_ifs <;> rfl

theorem outcome_setMode (e : Editor) (mode : ModeRequest) :
    outcome (e.setMode mode) = match mode with
      | .detect => (e.toScene.rested, true)
      | .draw options => (e.toScene.switched (.drawing (.start options)), true)
      | .edit target =>
        match e.resolve target with
        | some id => (e.toScene.switched (.editing (.start id)), true)
        | none => (e.toScene, false) := by
  unfold setMode
  cases mode with
  | detect => rw [outcome, toScene_rest]
  | draw options => rw [outcome, toScene_switchTo]
  | edit target =>
    dsimp only
    cases e.resolve target with
    | none => rfl
    | some id => rw [outcome, toScene_switchTo]

theorem outcome_highlight (e : Editor) (i : Nat) :
    outcome (e.highlight i) = match e.store.get? i with
      | some shape => ({ e.toScene with highlighted := some shape.id }, true)
      | none => (e.toScene, false) := by
  unfold highlight
  cases e.store.get? i with
  | none => rfl
  | some shape => rw [outcome, toScene_paintForeground]

theorem toScene_unhighlight (e : Editor) :
    e.unhighlight.toScene = { e.toScene with
      highlighted := none
      session := match e.session with
        | .detection _ => .detection {}
        | session => session } := by
  rw [unhighlight, toScene_paintForeground]
  rfl

theorem toScene_redraw (e : Editor) (keep : Bool) :
    (e.redraw keep).toScene = if keep then e.toScene else e.toScene.rested := by
  unfold redraw
  dsimp only
  split_ifs
  · rw [toScene_paintForeground, toScene_paintBackground]
  · rw [toScene_rest, toScene_paintBackground]

theorem toScene_resize (e : Editor) (v : Viewport Float) : (e.resize v).toScene = e.toScene := by
  simp [resize]

end Editor

end ShapeOverlay
