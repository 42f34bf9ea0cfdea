import ShapeOverlay.Proofs.Editor.Painting
import ShapeOverlay.Proofs.Editor.Response

/-! # Failing calls do not reach the scene

Two editors that agree on the scene and on the size of the foreground give the same replies and
agree on the scene after every request (`outcome_perform_congr`), whatever their surfaces make of
the calls. The size of the foreground stays the same on both sides as long as no change of it fails
(`viewport_resize`), so they agree after every run (`run_agrees_under_faults`). -/

namespace ShapeOverlay.Editor

/-- The same scene, and foregrounds of one size. -/
structure SameScene (e₁ e₂ : Editor) : Prop where
  scene : e₁.toScene = e₂.toScene
  viewport : e₁.foreground.viewport = e₂.foreground.viewport

variable {e e₁ e₂ : Editor}

/-! ### One request -/

theorem outcome_handle_congr (h : SameScene e₁ e₂) (event : Event) :
    outcome (e₁.handle event) = outcome (e₂.handle event) := by
  have hsession : e₁.session = e₂.session := by rw [h.scene]
  have htarget : e₁.editTarget? = e₂.editTarget? := by rw [h.scene]
  cases hs : e₂.session with
  | idle => rw [outcome_handle_idle hs, outcome_handle_idle (hsession.trans hs), h.scene]
  | detection d =>
    rw [outcome_handle_detection hs, outcome_handle_detection (hsession.trans hs), h.scene,
      h.viewport]
  | drawing d =>
    rw [outcome_handle_drawing hs, outcome_handle_drawing (hsession.trans hs), h.scene, h.viewport]
  | editing t =>
    cases hi : e₂.editTarget? with
    | none =>
      rw [outcome_handle_lost hs hi, outcome_handle_lost (hsession.trans hs) (htarget.trans hi),
        h.scene]
    | some target =>
      obtain ⟨i, shape⟩ := target
      rw [outcome_handle_editing hs hi,
        outcome_handle_editing (hsession.trans hs) (htarget.trans hi), h.scene, h.viewport]

/-- **The scene and the size of the foreground decide what a request does to the scene**, and what
is replied to it. -/
theorem outcome_perform_congr (h : SameScene e₁ e₂) (request : Request) :
    outcome (e₁.perform request) = outcome (e₂.perform request) := by
  cases request with
  | init shapes => simp only [perform, outcome, init, toScene_note, toScene_reset, h.scene]
  | reinit shapes => simp only [perform, outcome, reinit, toScene_note, toScene_reset, h.scene]
  | addShape shape => simp only [perform, outcome_map, outcome_addShape, h.scene]
  | addShapes shapes => simp only [perform, outcome_map, outcome_addShapes, h.scene]
  | redraw keep => simp only [perform, outcome, toScene_redraw, h.scene]
  | setStatus status selector => simp only [perform, outcome_map, outcome_setStatus, h.scene]
  | setAttribute name value selector =>
    simp only [perform, outcome_map, outcome_setAttribute, h.scene]
  | delete selector => simp only [perform, outcome_map, outcome_delete, h.scene]
  | setMode mode => simp only [perform, outcome_map, outcome_setMode, resolve, h.scene]
  | highlight i => simp only [perform, outcome_map, outcome_highlight, h.scene]
  | unhighlight => simp only [perform, outcome, toScene_unhighlight, h.scene]
  | resize v => simp only [perform, outcome, toScene_resize, h.scene]
  | event event => simp only [perform, outcome_map, outcome_handle_congr h]

/-! ### The foreground -/

/-- No change of the size of the surface fails. -/
def Resizes (s : Surface Float) : Prop := ∀ n, s.faults n .resize = false

theorem viewport_resize (h : Resizes e.foreground) (v : Viewport Float) :
    (e.resize v).foreground.viewport = v := by
  have hresize : (e.foreground.resize v).1.viewport = v := by
    simp [Surface.resize, Surface.attempt, h e.foreground.calls]
  simpa [resize] using hresize

theorem SameScene.perform (h : SameScene e₁ e₂) (h₁ : Resizes e₁.foreground)
    (h₂ : Resizes e₂.foreground) (request : Request) :
    SameScene (e₁.perform request).1 (e₂.perform request).1 := by
  constructor
  · exact (Prod.mk.inj (outcome_perform_congr h request)).1
  · by_cases hr : ∃ v, request = .resize v
    · obtain ⟨v, rfl⟩ := hr
      exact (viewport_resize h₁ v).trans (viewport_resize h₂ v).symm
    · have hne : ∀ v, request ≠ .resize v := fun v hv => hr ⟨v, hv⟩
      rw [viewport_perform_of_ne hne, viewport_perform_of_ne hne, h.viewport]

theorem Resizes.perform (h : Resizes e.foreground) (request : Request) :
    Resizes (e.perform request).1.foreground := by
  intro n
  rw [faults_perform]
  exact h n

/-! ### Runs -/

theorem SameScene.run : ∀ {e₁ e₂ : Editor} (requests : List Request), SameScene e₁ e₂ →
    Resizes e₁.foreground → Resizes e₂.foreground →
    (e₁.run requests).2 = (e₂.run requests).2 ∧ SameScene (e₁.run requests).1 (e₂.run requests).1
  | _, _, [], h, _, _ => ⟨rfl, h⟩
  | e₁, e₂, request :: rest, h, h₁, h₂ => by
    have hreply : (e₁.perform request).2 = (e₂.perform request).2 :=
      (Prod.mk.inj (outcome_perform_congr h request)).2
    obtain ⟨hreplies, hrest⟩ :=
      SameScene.run rest (h.perform h₁ h₂ request) (h₁.perform request) (h₂.perform request)
    rw [run_cons, run_cons, hreply, hreplies]
    exact ⟨rfl, hrest⟩

/-- **Failing calls never reach the scene.** Two editors that begin with one scene and foregrounds of
one size give the same replies and end with the same shapes, session, highlight and cursor and with
foregrounds of one size after every run, whichever calls fail on their backgrounds and whichever but
changes of the size fail on their foregrounds. -/
theorem run_agrees_under_faults (e₁ e₂ : Editor) (requests : List Request)
    (hscene : e₁.toScene = e₂.toScene)
    (hviewport : e₁.foreground.viewport = e₂.foreground.viewport)
    (h₁ : ∀ n, e₁.foreground.faults n .resize = false)
    (h₂ : ∀ n, e₂.foreground.faults n .resize = false) :
    (e₁.run requests).2 = (e₂.run requests).2 ∧
      (e₁.run requests).1.toScene = (e₂.run requests).1.toScene ∧
      (e₁.run requests).1.foreground.viewport = (e₂.run requests).1.foreground.viewport := by
  obtain ⟨hreplies, hrun⟩ := SameScene.run requests ⟨hscene, hviewport⟩ h₁ h₂
  exact ⟨hreplies, hrun.scene, hrun.viewport⟩

/-- A shape is put in, pressed in an editing session, and the surfaces get another size, while every
call but that to change the size of the foreground fails. -/
theorem editing_agrees_under_faults :
    let e₁ := start { viewport := ⟨100, 100⟩, faults := fun _ _ => true }
      { viewport := ⟨100, 100⟩, faults := fun _ call => decide (call ≠ .resize) } {}
      { source := fun _ => .nil }
    let e₂ := start { viewport := ⟨100, 100⟩ } { viewport := ⟨100, 100⟩ } {}
      { source := fun _ => .nil }
    let requests : List Request :=
      [.addShape { id := .nil, geometry := .rectangle ⟨0, 0⟩ ⟨1, 1⟩ }, .setMode (.edit (.index 0)),
        .event (.down ⟨50, 50⟩ .primary), .resize ⟨200, 200⟩]
    e₁.toScene = e₂.toScene ∧ e₁.foreground.viewport = e₂.foreground.viewport ∧
      (∀ n, e₁.foreground.faults n .resize = false) ∧
      (∀ n, e₂.foreground.faults n .resize = false) ∧
      (e₁.run requests).2 = (e₂.run requests).2 ∧
      (e₁.run requests).1.toScene = (e₂.run requests).1.toScene ∧
      (e₁.run requests).1.foreground.viewport = (e₂.run requests).1.foreground.viewport := by
  intro e₁ e₂ requests
  exact ⟨rfl, rfl, fun _ => rfl, fun _ => rfl,
    run_agrees_under_faults e₁ e₂ requests rfl rfl (fun _ => rfl) (fun _ => rfl)⟩

end ShapeOverlay.Editor
