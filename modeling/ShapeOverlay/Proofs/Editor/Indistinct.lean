import ShapeOverlay.Proofs.Editor.Faults

/-! # Editors that cannot be told apart

Two editors are `Indistinct` if they are in the same scene, on surfaces of the same sizes that show
the same and never fail. Their journals, and how often their surfaces have been cleared and called,
may differ. No part of an editor looks at these, so that each takes indistinct editors to indistinct
ones; one lemma for each part says so. Hence two indistinct editors give the same replies to all
requests and stay indistinct (`Indistinct.run`). -/

namespace ShapeOverlay

/-! ### Surfaces -/

namespace Surface

/-- Two surfaces of one size that show the same, and never fail. -/
structure SameFace (s t : Surface Float) : Prop where
  viewport : s.viewport = t.viewport
  primitives : s.primitives = t.primitives
  left : s.IsFaultless
  right : t.IsFaultless

variable {s t : Surface Float}

/-- Surfaces of one size that never fail show the same when they are painted anew. -/
theorem sameFace_repaint (hv : s.viewport = t.viewport) (hs : s.IsFaultless) (ht : t.IsFaultless)
    (picture : Viewport Float → List (Primitive Float)) :
    SameFace (s.repaint picture).1 (t.repaint picture).1 where
  viewport := by rw [viewport_repaint, viewport_repaint, hv]
  primitives := by rw [primitives_repaint hs, primitives_repaint ht, hv]
  left := hs.repaint picture
  right := ht.repaint picture

theorem SameFace.repaint (h : SameFace s t) (picture : Viewport Float → List (Primitive Float)) :
    SameFace (s.repaint picture).1 (t.repaint picture).1 :=
  sameFace_repaint h.viewport h.left h.right picture

theorem SameFace.resize (h : SameFace s t) (v : Viewport Float) :
    SameFace (s.resize v).1 (t.resize v).1 where
  viewport := by rw [resize_of_isFaultless h.left, resize_of_isFaultless h.right]
  primitives := by rw [resize_of_isFaultless h.left, resize_of_isFaultless h.right]
  left := h.left.resize v
  right := h.right.resize v

end Surface

/-! ### Editors -/

namespace Editor

/-- **Two editors that cannot be told apart**: the same scene on surfaces that look the same. -/
structure Indistinct (e₁ e₂ : Editor) : Prop where
  scene : e₁.toScene = e₂.toScene
  background : e₁.background.SameFace e₂.background
  foreground : e₁.foreground.SameFace e₂.foreground

namespace Indistinct

variable {e₁ e₂ : Editor}

theorem note (h : Indistinct e₁ e₂) (m n : Notice) : Indistinct (e₁.note m) (e₂.note n) :=
  ⟨h.scene, h.background, h.foreground⟩

theorem paintBackground (h : Indistinct e₁ e₂) :
    Indistinct e₁.paintBackground e₂.paintBackground where
  scene := by simp only [toScene_paintBackground, h.scene]
  background := by
    simpa only [background_paintBackground, h.scene] using h.background.repaint _
  foreground := by simpa only [foreground_paintBackground] using h.foreground

theorem paintForeground (h : Indistinct e₁ e₂) :
    Indistinct e₁.paintForeground e₂.paintForeground where
  scene := by simp only [toScene_paintForeground, h.scene]
  background := by simpa only [background_paintForeground] using h.background
  foreground := by
    simpa only [foreground_paintForeground, h.scene] using h.foreground.repaint _

theorem setCursor (h : Indistinct e₁ e₂) (c : Cursor) :
    Indistinct (e₁.setCursor c).1 (e₂.setCursor c).1 := by
  rw [fst_setCursor, fst_setCursor]
  exact ⟨by rw [h.scene], h.background, h.foreground⟩

theorem switchTo (h : Indistinct e₁ e₂) (next : Session) :
    Indistinct (e₁.switchTo next).1 (e₂.switchTo next).1 := by
  refine setCursor (paintForeground (note ?_ _ _)) _
  exact ⟨by rw [h.scene], h.background, h.foreground⟩

theorem rest (h : Indistinct e₁ e₂) : Indistinct e₁.rest.1 e₂.rest.1 := by
  unfold Editor.rest
  rw [h.scene]
  exact h.switchTo _

theorem endLostEdit (h : Indistinct e₁ e₂) : Indistinct e₁.endLostEdit.1 e₂.endLostEdit.1 :=
  (h.note _ _).rest

/-! ### Changes of the list -/

theorem dropLostHighlight (h : Indistinct e₁ e₂) :
    Indistinct e₁.dropLostHighlight e₂.dropLostHighlight :=
  ⟨by rw [Editor.dropLostHighlight, h.scene]; rfl, h.background, h.foreground⟩

theorem adjustSession (h : Indistinct e₁ e₂) : Indistinct e₁.adjustSession e₂.adjustSession := by
  unfold Editor.adjustSession
  -- with the scenes the same, the editors branch alike
  rw [h.scene]
  cases e₂.session with
  | idle =>
    dsimp only
    split_ifs
    · exact h.paintForeground
    · exact h.switchTo _
  | detection d =>
    dsimp only
    split_ifs
    · exact h.switchTo _
    · exact paintForeground ⟨rfl, h.background, h.foreground⟩
  | drawing d => exact h.paintForeground
  | editing t =>
    dsimp only
    split_ifs
    · exact h.paintForeground
    · exact h.endLostEdit

theorem afterListChange (h : Indistinct e₁ e₂) :
    Indistinct e₁.afterListChange e₂.afterListChange :=
  h.paintBackground.dropLostHighlight.adjustSession

theorem pushAll (h : Indistinct e₁ e₂) (shapes : List (Shape Float)) :
    Indistinct (e₁.pushAll shapes).1 (e₂.pushAll shapes).1 :=
  ⟨by unfold Editor.pushAll; rw [h.scene], h.background, h.foreground⟩

/-! ### Operations -/

theorem reset (h : Indistinct e₁ e₂) (shapes : List (Shape Float)) :
    Indistinct (e₁.reset shapes) (e₂.reset shapes) := by
  refine rest (paintBackground (pushAll ?_ shapes))
  exact ⟨by rw [h.scene], h.background, h.foreground⟩

theorem addShape (h : Indistinct e₁ e₂) (shape : Shape Float) :
    Indistinct (e₁.addShape shape).1 (e₂.addShape shape).1 := by
  unfold Editor.addShape
  rw [h.scene]
  cases e₂.store.push shape with
  | none => exact h.note _ _
  | some store => exact afterListChange ⟨rfl, h.background, h.foreground⟩

theorem setStatus (h : Indistinct e₁ e₂) (status : Status) (selector : Selector) :
    Indistinct (e₁.setStatus status selector).1 (e₂.setStatus status selector).1 := by
  unfold Editor.setStatus
  rw [h.scene]
  exact afterListChange ⟨rfl, h.background, h.foreground⟩

theorem setAttribute (h : Indistinct e₁ e₂) (name : String) (value : Value)
    (selector : Selector) :
    Indistinct (e₁.setAttribute name value selector).1
      (e₂.setAttribute name value selector).1 := by
  unfold Editor.setAttribute
  rw [h.scene]
  exact afterListChange ⟨rfl, h.background, h.foreground⟩

theorem delete (h : Indistinct e₁ e₂) (selector : Selector) :
    Indistinct (e₁.delete selector).1 (e₂.delete selector).1 := by
  unfold Editor.delete
  rw [h.scene]
  dsimp only
  split_ifs
  · exact afterListChange ⟨rfl, h.background, h.foreground⟩
  · exact afterListChange ⟨rfl, h.background, h.foreground⟩

theorem setMode (h : Indistinct e₁ e₂) (mode : ModeRequest) :
    Indistinct (e₁.setMode mode).1 (e₂.setMode mode).1 := by
  cases mode with
  | detect => exact h.rest
  | draw options => exact h.switchTo _
  | edit target =>
    have htarget : e₁.resolve target = e₂.resolve target := by
      unfold resolve
      rw [h.scene]
    unfold Editor.setMode
    dsimp only
    rw [htarget]
    cases e₂.resolve target with
    | none => exact h.note _ _
    | some id => exact h.switchTo _

theorem highlight (h : Indistinct e₁ e₂) (i : Nat) :
    Indistinct (e₁.highlight i).1 (e₂.highlight i).1 := by
  unfold Editor.highlight
  rw [h.scene]
  cases e₂.store.get? i with
  | none => exact h.note _ _
  | some shape => exact paintForeground ⟨rfl, h.background, h.foreground⟩

theorem unhighlight (h : Indistinct e₁ e₂) : Indistinct e₁.unhighlight e₂.unhighlight :=
  paintForeground ⟨by rw [h.scene], h.background, h.foreground⟩

theorem redraw (h : Indistinct e₁ e₂) (keep : Bool) :
    Indistinct (e₁.redraw keep) (e₂.redraw keep) := by
  unfold Editor.redraw
  dsimp only
  split_ifs
  · exact h.paintBackground.paintForeground
  · exact h.paintBackground.rest

theorem resize (h : Indistinct e₁ e₂) (v : Viewport Float) :
    Indistinct (e₁.resize v) (e₂.resize v) := by
  refine paintForeground (paintBackground (note ?_ _ _))
  refine ⟨?_, ?_, ?_⟩
  · simp only [toScene_resizeForeground, toScene_resizeBackground, h.scene]
  · simpa only [background_resizeForeground, background_resizeBackground] using
      h.background.resize v
  · simpa only [foreground_resizeForeground, foreground_resizeBackground] using
      h.foreground.resize v

/-! ### Events -/

theorem detectMove (h : Indistinct e₁ e₂) (d : Detection) (p : Point Float) :
    Indistinct (e₁.detectMove d p).1 (e₂.detectMove d p).1 := by
  unfold Editor.detectMove
  rw [h.scene, h.foreground.viewport]
  refine setCursor (paintForeground ?_) _
  exact ⟨rfl, h.background, h.foreground⟩

theorem detectClick (h : Indistinct e₁ e₂) (d : Detection) :
    Indistinct (e₁.detectClick d).1 (e₂.detectClick d).1 := by
  unfold Editor.detectClick
  rw [h.scene]
  split
  · exact h.note _ _
  · exact h

theorem commit (h : Indistinct e₁ e₂) (shape : Shape Float) :
    Indistinct (e₁.commit shape).1 (e₂.commit shape).1 := by
  unfold Editor.commit
  rw [h.scene]
  cases e₂.store.push shape with
  | none => exact h.note _ _
  | some store =>
    refine rest (note (paintBackground ?_) _ _)
    exact ⟨rfl, h.background, h.foreground⟩

theorem drawEvent (h : Indistinct e₁ e₂) (outcome : DrawingStep Float × Drawing Float) :
    Indistinct (e₁.drawEvent outcome).1 (e₂.drawEvent outcome).1 := by
  rcases outcome with ⟨_ | _ | shape, d⟩
  · exact ⟨by simp only [Editor.drawEvent, h.scene], h.background, h.foreground⟩
  · exact paintForeground ⟨by rw [h.scene], h.background, h.foreground⟩
  · unfold Editor.drawEvent
    rw [h.scene]
    refine commit ?_ shape
    exact ⟨rfl, h.background, h.foreground⟩

theorem editDown (h : Indistinct e₁ e₂) (s : Editing Float) (shape : Shape Float)
    (p : Point Float) : Indistinct (e₁.editDown s shape p).1 (e₂.editDown s shape p).1 := by
  unfold Editor.editDown
  rw [h.scene, h.foreground.viewport]
  dsimp only
  split
  · refine setCursor ?_ _
    exact ⟨rfl, h.background, h.foreground⟩
  · refine setCursor ?_ _
    exact ⟨rfl, h.background, h.foreground⟩
  · exact ⟨rfl, h.background, h.foreground⟩

theorem editCursor (h : Indistinct e₁ e₂) (shape : Shape Float) (p : Point Float) :
    e₁.editCursor shape p = e₂.editCursor shape p := by
  unfold Editor.editCursor
  rw [h.scene, h.foreground.viewport]

theorem editMove (h : Indistinct e₁ e₂) (s : Editing Float) (i : Nat) (shape : Shape Float)
    (p : Point Float) : Indistinct (e₁.editMove s i shape p).1 (e₂.editMove s i shape p).1 := by
  unfold Editor.editMove
  rw [h.editCursor, h.scene, h.foreground.viewport]
  dsimp only
  split_ifs
  · exact paintForeground (paintBackground ⟨rfl, h.background, h.foreground⟩)
  · exact ⟨rfl, h.background, h.foreground⟩
  · exact h.setCursor _

theorem editUp (h : Indistinct e₁ e₂) (s : Editing Float) (shape : Shape Float)
    (p : Point Float) : Indistinct (e₁.editUp s shape p).1 (e₂.editUp s shape p).1 := by
  have hup : Indistinct { e₁ with session := .editing s.pointerUp.2 }
      { e₂ with session := .editing s.pointerUp.2 } :=
    ⟨by rw [h.scene], h.background, h.foreground⟩
  unfold Editor.editUp
  dsimp only
  rw [hup.editCursor]
  split_ifs
  · exact hup.setCursor _
  · exact hup

theorem editClick (h : Indistinct e₁ e₂) (s : Editing Float) (i : Nat) (shape : Shape Float)
    (p : Point Float) :
    Indistinct (e₁.editClick s i shape p).1 (e₂.editClick s i shape p).1 := by
  unfold Editor.editClick
  rw [h.scene, h.foreground.viewport]
  dsimp only
  split_ifs
  · refine rest (note ?_ _ _)
    exact ⟨rfl, h.background, h.foreground⟩
  · exact ⟨rfl, h.background, h.foreground⟩

theorem editEvent (h : Indistinct e₁ e₂) {event₁ event₂ : Nat → Shape Float → Editor × List Action}
    (hevent : ∀ i shape, Indistinct (event₁ i shape).1 (event₂ i shape).1) :
    Indistinct (e₁.editEvent event₁).1 (e₂.editEvent event₂).1 := by
  unfold Editor.editEvent
  rw [h.scene]
  split
  · exact hevent _ _
  · exact h.endLostEdit

theorem pointAt (h : Indistinct e₁ e₂) (pixel : Point Float) :
    e₁.pointAt pixel = e₂.pointAt pixel := by
  rw [Editor.pointAt, h.foreground.viewport, Editor.pointAt]

theorem pointerDown (h : Indistinct e₁ e₂) (pixel : Point Float) (button : Button) :
    Indistinct (e₁.pointerDown pixel button).1 (e₂.pointerDown pixel button).1 := by
  unfold Editor.pointerDown
  rw [h.scene, h.pointAt]
  split_ifs
  · cases e₂.session with
    | idle | detection d => exact h
    | drawing d => exact h.drawEvent _
    | editing t => exact h.editEvent fun _ _ => h.editDown _ _ _
  · exact h

theorem pointerMove (h : Indistinct e₁ e₂) (pixel : Point Float) :
    Indistinct (e₁.pointerMove pixel).1 (e₂.pointerMove pixel).1 := by
  unfold Editor.pointerMove
  rw [h.scene, h.pointAt, h.foreground.viewport]
  cases e₂.session with
  | idle => exact h
  | detection d => exact h.detectMove _ _
  | drawing d => exact h.drawEvent _
  | editing t => exact h.editEvent fun _ _ => h.editMove _ _ _ _

theorem pointerUp (h : Indistinct e₁ e₂) (pixel : Point Float) (button : Button) :
    Indistinct (e₁.pointerUp pixel button).1 (e₂.pointerUp pixel button).1 := by
  unfold Editor.pointerUp
  rw [h.scene, h.pointAt, h.foreground.viewport]
  split_ifs
  · cases e₂.session with
    | idle | detection d => exact h
    | drawing d => exact h.drawEvent _
    | editing t => exact h.editEvent fun _ _ => h.editUp _ _ _
  · exact h

theorem click (h : Indistinct e₁ e₂) (pixel : Point Float) :
    Indistinct (e₁.click pixel).1 (e₂.click pixel).1 := by
  unfold Editor.click
  rw [h.scene, h.pointAt]
  cases e₂.session with
  | idle | drawing d => exact h
  | detection d => exact h.detectClick _
  | editing t => exact h.editEvent fun _ _ => h.editClick _ _ _ _

theorem doubleClick (h : Indistinct e₁ e₂) : Indistinct e₁.doubleClick.1 e₂.doubleClick.1 := by
  unfold Editor.doubleClick
  rw [h.scene]
  cases e₂.session with
  | idle | detection d | editing t => exact h
  | drawing d => exact h.drawEvent _

/-- **An event takes indistinct editors to indistinct ones.** -/
theorem handle (h : Indistinct e₁ e₂) : ∀ event : Event,
    Indistinct (e₁.handle event).1 (e₂.handle event).1
  | .down pixel button => h.pointerDown pixel button
  | .move pixel => h.pointerMove pixel
  | .up pixel button => h.pointerUp pixel button
  | .click pixel => h.click pixel
  | .doubleClick _ => h.doubleClick

/-! ### Requests and runs -/

/-- **A request takes indistinct editors to indistinct ones.** -/
theorem perform (h : Indistinct e₁ e₂) : ∀ request : Request,
    Indistinct (e₁.perform request).1 (e₂.perform request).1
  | .init shapes => (h.reset shapes).note _ _
  | .reinit shapes => (h.reset shapes).note _ _
  | .addShape shape => h.addShape shape
  | .addShapes shapes => ((h.pushAll shapes).note _ _).afterListChange
  | .redraw keep => h.redraw keep
  | .setStatus status selector => h.setStatus status selector
  | .setAttribute name value selector => h.setAttribute name value selector
  | .delete selector => h.delete selector
  | .setMode mode => h.setMode mode
  | .highlight i => h.highlight i
  | .unhighlight => h.unhighlight
  | .resize v => h.resize v
  | .event event => h.handle event

/-- **Indistinct editors give the same reply.** -/
theorem reply (h : Indistinct e₁ e₂) (request : Request) :
    (e₁.perform request).2 = (e₂.perform request).2 :=
  (Prod.mk.inj (outcome_perform_congr ⟨h.scene, h.foreground.viewport⟩ request)).2

/-- **Indistinct editors cannot be told apart by any run**: they give the same replies and stay
indistinct. -/
theorem run : ∀ {e₁ e₂ : Editor} (requests : List Request), Indistinct e₁ e₂ →
    (e₁.run requests).2 = (e₂.run requests).2 ∧ Indistinct (e₁.run requests).1 (e₂.run requests).1
  | _, _, [], h => ⟨rfl, h⟩
  | e₁, e₂, request :: rest, h => by
    obtain ⟨hreplies, hrest⟩ := run rest (h.perform request)
    rw [run_cons, run_cons, h.reply request, hreplies]
    exact ⟨rfl, hrest⟩

end Indistinct

end Editor

end ShapeOverlay
