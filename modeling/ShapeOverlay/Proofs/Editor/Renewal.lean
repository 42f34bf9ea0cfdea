import ShapeOverlay.Proofs.Editor.Indistinct

/-! # A replaced list leaves nothing behind

Replacing the list ends the session, drops the highlight and the cursor and paints both surfaces, so
that nothing is left of what an editor has been through but the sizes of its surfaces, the theme and
the identifiers that are still to be handed out (`indistinct_reset`). From then on the editor cannot
be told apart from one that has just been started (`reinit_renews`). -/

namespace ShapeOverlay.Editor

/-- No call ever fails on either surface. -/
structure Faultless (e : Editor) : Prop where
  background : e.background.IsFaultless
  foreground : e.foreground.IsFaultless

theorem Faultless.perform {e : Editor} (h : Faultless e) (request : Request) :
    Faultless (e.perform request).1 := by
  constructor
  · rw [Surface.IsFaultless, faults_background_perform]
    exact h.background
  · rw [Surface.IsFaultless, faults_perform]
    exact h.foreground

theorem Faultless.run {e : Editor} (h : Faultless e) (requests : List Request) :
    Faultless (e.run requests).1 :=
  run_keeps (fun _ r h => h.perform r) h requests

variable {e₁ e₂ : Editor}

/-- **Two editors that never fail cannot be told apart once their lists are replaced by the same
shapes**, if they have the theme, the identifiers to come and the sizes of the surfaces in
common. -/
theorem indistinct_reset (h₁ : Faultless e₁) (h₂ : Faultless e₂) (htheme : e₁.theme = e₂.theme)
    (hids : e₁.ids = e₂.ids) (hback : e₁.background.viewport = e₂.background.viewport)
    (hfore : e₁.foreground.viewport = e₂.foreground.viewport) (shapes : List (Shape Float)) :
    Indistinct (e₁.reset shapes) (e₂.reset shapes) := by
  have hscene : (e₁.reset shapes).toScene = (e₂.reset shapes).toScene := by
    rw [toScene_reset, toScene_reset]
    simp only [Scene.rested, Scene.restingSession, Scene.switched, htheme, hids]
  refine ⟨hscene, ?_, ?_⟩
  · rw [paintsBackground_reset e₁ shapes, paintsBackground_reset e₂ shapes, hscene]
    exact Surface.sameFace_repaint hback h₁.background h₂.background _
  · rw [paintsForeground_reset e₁ shapes, paintsForeground_reset e₂ shapes, hscene]
    exact Surface.sameFace_repaint hfore h₁.foreground h₂.foreground _

/-- Two editors give the same replies to requests, and are in the same scene after them, on surfaces
of the same sizes on which the same is painted. -/
structure RunAlike (e₁ e₂ : Editor) (requests : List Request) : Prop where
  replies : (e₁.run requests).2 = (e₂.run requests).2
  scene : (e₁.run requests).1.toScene = (e₂.run requests).1.toScene
  backgroundSize : (e₁.run requests).1.background.viewport =
    (e₂.run requests).1.background.viewport
  background : (e₁.run requests).1.background.primitives =
    (e₂.run requests).1.background.primitives
  foregroundSize : (e₁.run requests).1.foreground.viewport =
    (e₂.run requests).1.foreground.viewport
  foreground : (e₁.run requests).1.foreground.primitives =
    (e₂.run requests).1.foreground.primitives

theorem Indistinct.runAlike (h : Indistinct e₁ e₂) (requests : List Request) :
    RunAlike e₁ e₂ requests where
  replies := (h.run requests).1
  scene := (h.run requests).2.scene
  backgroundSize := (h.run requests).2.background.viewport
  background := (h.run requests).2.background.primitives
  foregroundSize := (h.run requests).2.foreground.viewport
  foreground := (h.run requests).2.foreground.primitives

/-- An editor that is started with shapes on blank surfaces that never fail. What it has in common
with `e` is the sizes of the surfaces, the theme and the identifiers still to be handed out. -/
def startedAfresh (e : Editor) (shapes : List (Shape Float)) : Editor :=
  (start { viewport := e.background.viewport } { viewport := e.foreground.viewport }
    e.theme e.ids).init shapes

theorem indistinct_startedAfresh {e : Editor} (h : Faultless e) (shapes : List (Shape Float)) :
    Indistinct (e.reinit shapes) (e.startedAfresh shapes) := by
  have hblank : Faultless (start { viewport := e.background.viewport }
      { viewport := e.foreground.viewport } e.theme e.ids) := ⟨fun _ _ => rfl, fun _ _ => rfl⟩
  exact (indistinct_reset h hblank rfl rfl rfl rfl shapes).note _ _

/-- **Replacing the list makes an editor as good as new.** Whatever an editor has been through on
surfaces that never fail, once its list is replaced it runs like an editor that is started afresh
with these shapes. -/
theorem reinit_renews (background foreground : Surface Float) (theme : Theme) (ids : IdSupply)
    (history : List Request) (shapes : List (Shape Float)) (future : List Request)
    (hback : background.IsFaultless) (hfore : foreground.IsFaultless) :
    let e := ((start background foreground theme ids).run history).1
    RunAlike (e.reinit shapes) (e.startedAfresh shapes) future := by
  intro e
  have hstart : Faultless (start background foreground theme ids) := ⟨hback, hfore⟩
  exact (indistinct_startedAfresh (hstart.run history) shapes).runAlike future

/-- A shape is dragged when the list is replaced, on surfaces that have got another size, and then
the drag goes on over the shape that is there instead. -/
theorem reinit_renews_dragging :
    let shape : Shape Float := { id := .nil, geometry := .rectangle ⟨0, 0⟩ ⟨0.5, 0.5⟩ }
    let history : List Request := [.addShape shape, .resize ⟨200, 200⟩, .setMode (.edit (.index 0)),
      .event (.down ⟨50, 50⟩ .primary), .event (.move ⟨60, 60⟩)]
    let future : List Request := [.event (.move ⟨70, 70⟩), .event (.up ⟨70, 70⟩ .primary),
      .event (.click ⟨70, 70⟩)]
    let surface : Surface Float := { viewport := ⟨100, 100⟩ }
    let e := ((start surface surface {} { source := fun _ => .nil }).run history).1
    surface.IsFaultless ∧ e.mode = .edit ∧ e.foreground.viewport = ⟨200, 200⟩ ∧
      RunAlike (e.reinit [shape]) (e.startedAfresh [shape]) future := by
  intro shape history future surface e
  have hsurface : surface.IsFaultless := fun _ _ => rfl
  have hmode : e.mode = .edit := by decide +kernel
  have hsize : e.foreground.viewport = ⟨200, 200⟩ := by decide +kernel
  exact ⟨hsurface, hmode, hsize, reinit_renews surface surface {} { source := fun _ => .nil }
    history [shape] future hsurface hsurface⟩

end ShapeOverlay.Editor
