import ShapeOverlay.Proofs.Editor.ListOperation

/-! # What operations interrupt

An operation of the host begins a session (`Request.begins`), edits the list (`Request.edits`),
drops all highlights, or leaves the list, the session and the cursor alone. `Operated` says what
becomes of the scene in each of these cases, and every operation is in one of them (`operated`). A
run leaves a log of its requests and the replies (`Editor.log`), and what each request makes of an
editor and its log can be followed through the run (`log_induction`). -/

namespace ShapeOverlay

/-! ### Requests -/

namespace Request

/-- A session is begun, as the reply tells. -/
def begins : Request → Reply → Bool
  | .init _, _ | .reinit _, _ => true
  | .setMode _, .accepted b => b
  | .redraw keep, _ => !keep
  | _, _ => false

/-- The list is changed by the host, as the reply tells. -/
def edits : Request → Reply → Bool
  | .addShape _, .place i => i.isSome
  | .addShapes _, _ | .setStatus _ _, _ | .setAttribute _ _ _, _ | .delete _, _ => true
  | _, _ => false

/-- All highlights are dropped. -/
def unhighlights : Request → Bool
  | .unhighlight => true
  | _ => false

/-- The pointer moves. -/
def isMove : Request → Bool
  | .event (.move _) => true
  | _ => false

/-- Detection forgets what it found, as the reply tells. -/
def forgets (request : Request) (reply : Reply) : Bool :=
  request.begins reply || request.edits reply || request.unhighlights

theorem isMove_of_isEvent {request : Request} (h : request.isEvent = false) :
    request.isMove = false := by
  cases request with
  | event event => cases h
  | _ => rfl

end Request

/-- Detection has found nothing yet where nothing is drawn or edited. -/
theorem Scene.eq_of_restingSession {s : Scene} {d : Detection}
    (h : s.restingSession = .detection d) : d = {} := by
  unfold restingSession at h
  split_ifs at h
  exact (Session.detection.inj h).symm

namespace Editor

/-! ### Operations -/

/-- **What an operation of the host makes of the scene.** A session is begun, which has found
nothing yet; the list is changed; all highlights are dropped; or nothing but the highlight on
request is changed. -/
inductive Operated (s : Scene) (request : Request) (reply : Reply) (s' : Scene) : Prop where
  | begun (t : Scene) (next : Session) (begins : request.begins reply = true)
    (fresh : ∀ d, next = .detection d → d = {}) (result : s' = t.switched next)
  | edited (store : Store Float) (begins : request.begins reply = false)
    (edits : request.edits reply = true) (result : s' = { s with store }.settled)
  | unhighlighted (session : Session) (operation : request = .unhighlight)
    (result : s' = { s with highlighted := none, session })
    (forgotten : session = match s.session with
      | .detection _ => .detection {}
      | session => session)
  | kept (highlighted : Option Identifier) (forgets : request.forgets reply = false)
    (result : s' = { s with highlighted })

theorem scene_of_outcome {β : Type} {x : Editor × β} {y : Scene × β} (h : outcome x = y) :
    x.1.toScene = y.1 := congrArg Prod.fst h

theorem reply_of_outcome {β : Type} {x : Editor × β} {y : Scene × β} (h : outcome x = y) :
    x.2 = y.2 := congrArg Prod.snd h

theorem operated_rested (s t : Scene) {request : Request} {reply : Reply}
    (h : request.begins reply = true) : Operated s request reply t.rested :=
  .begun t t.restingSession h (fun _ => Scene.eq_of_restingSession) rfl

theorem operated_addShape (e : Editor) (shape : Shape Float) :
    Operated e.toScene (.addShape shape) (.place (e.addShape shape).2)
      (e.addShape shape).1.toScene := by
  have hscene := scene_of_outcome (outcome_addShape e shape)
  have hplace := reply_of_outcome (outcome_addShape e shape)
  cases hpush : e.store.push shape with
  | none =>
    rw [hpush] at hscene hplace
    have hforgets : (Request.addShape shape).forgets (.place (e.addShape shape).2) = false := by
      rw [hplace]
      rfl
    exact .kept e.highlighted hforgets hscene
  | some store =>
    rw [hpush] at hscene hplace
    have hedits : (Request.addShape shape).edits (.place (e.addShape shape).2) = true := by
      rw [hplace]
      rfl
    exact .edited store rfl hedits hscene

theorem operated_setMode (e : Editor) (mode : ModeRequest) :
    Operated e.toScene (.setMode mode) (.accepted (e.setMode mode).2)
      (e.setMode mode).1.toScene := by
  have hscene := scene_of_outcome (outcome_setMode e mode)
  have haccepted := reply_of_outcome (outcome_setMode e mode)
  cases mode with
  | detect =>
    rw [hscene]
    exact operated_rested _ _ haccepted
  | draw options => exact .begun _ _ haccepted (fun d hd => by cases hd) hscene
  | edit target =>
    cases hid : e.resolve target with
    | none =>
      simp only [hid] at hscene haccepted
      have hforgets : (Request.setMode (.edit target)).forgets
          (.accepted (e.setMode (.edit target)).2) = false := by
        rw [haccepted]
        rfl
      exact .kept e.highlighted hforgets hscene
    | some id =>
      simp only [hid] at hscene haccepted
      exact .begun _ _ haccepted (fun d hd => by cases hd) hscene

theorem operated_highlight (e : Editor) (i : Nat) :
    Operated e.toScene (.highlight i) (.accepted (e.highlight i).2) (e.highlight i).1.toScene := by
  have hscene := scene_of_outcome (outcome_highlight e i)
  cases hi : e.store.get? i with
  | none =>
    rw [hi] at hscene
    exact .kept e.highlighted rfl hscene
  | some shape =>
    rw [hi] at hscene
    exact .kept (some shape.id) rfl hscene

/-- **What operations make of the scene**, by what they interrupt. -/
theorem operated (e : Editor) {request : Request} (h : request.isEvent = false) :
    Operated e.toScene request (e.perform request).2 (e.perform request).1.toScene := by
  cases request with
  | init shapes | reinit shapes =>
    simp only [perform, init, reinit, toScene_note, toScene_reset]
    exact operated_rested _ _ rfl
  | addShape shape => exact operated_addShape e shape
  | addShapes shapes => exact .edited _ rfl rfl (scene_of_outcome (outcome_addShapes e shapes))
  | redraw keep =>
    have hscene : (e.perform (.redraw keep)).1.toScene = _ := toScene_redraw e keep
    cases keep with
    | false =>
      rw [hscene]
      exact operated_rested _ _ rfl
    | true => exact .kept e.highlighted rfl hscene
  | setStatus status selector =>
    exact .edited _ rfl rfl (scene_of_outcome (outcome_setStatus e status selector))
  | setAttribute name value selector =>
    exact .edited _ rfl rfl (scene_of_outcome (outcome_setAttribute e name value selector))
  | delete selector => exact .edited _ rfl rfl (scene_of_outcome (outcome_delete e selector))
  | setMode mode => exact operated_setMode e mode
  | highlight i => exact operated_highlight e i
  | unhighlight => exact .unhighlighted _ rfl (toScene_unhighlight e) rfl
  | resize v => exact .kept e.highlighted rfl (toScene_resize e v)
  | event event => cases h

/-! ### Logs -/

/-- The requests of a run with the replies, in order. -/
def log (e : Editor) (requests : List Request) : List (Request × Reply) :=
  requests.zip (e.run requests).2

/-- **What each request makes of an editor and its log can be followed through every run.** -/
theorem log_induction {P : Editor → List (Request × Reply) → Prop}
    (hstep : ∀ e log request, P e log →
      P (e.perform request).1 (log ++ [(request, (e.perform request).2)])) :
    ∀ {e : Editor} {log : List (Request × Reply)} (requests : List Request), P e log →
      P (e.run requests).1 (log ++ e.log requests)
  | _, log, [], h => by
    rw [Editor.log, List.zip_nil_left, List.append_nil]
    exact h
  | e, log, request :: rest, h => by
    have hrest := log_induction hstep rest (hstep e log request h)
    rw [List.append_assoc] at hrest
    exact hrest

end Editor

end ShapeOverlay
