import ShapeOverlay.Proofs.Editor.Frame
import ShapeOverlay.Proofs.Picture.Alike
import ShapeOverlay.Proofs.Session.Editing

/-! # What requests paint

`Painting e request e'` says what a request did to the surfaces: it left both alone, and what they
are to show too; or it painted the foreground anew and left the shapes alone; or it painted both
anew, perhaps with another size. Every request does one of these (`painting_perform`). No request
changes which calls fail on the surfaces (`faults_perform`, `faults_background_perform`), and none
but a resize changes the size of the foreground (`viewport_perform_of_ne`). -/

namespace ShapeOverlay.Editor

/-- The foreground of `e'` is that of `e` painted anew. -/
def PaintsForeground (e e' : Editor) : Prop :=
  e'.foreground = (e.foreground.repaint e'.foregroundPicture).1

/-- The background of `e'` is that of `e` painted anew. -/
def PaintsBackground (e e' : Editor) : Prop :=
  e'.background = (e.background.repaint e'.backgroundPicture).1

/-- **What a request did to the surfaces.** Nothing was painted, and nothing had to be; or the
foreground was painted, or both were, or both were given another size and painted. -/
inductive Painting (e : Editor) (request : Request) (e' : Editor) : Prop where
  | kept (background : e'.background = e.background) (foreground : e'.foreground = e.foreground)
    (store : e'.store.Alike e.store)
    (picture : e'.mode = .draw ∨ e'.mode = e.mode ∧ ∀ v,
      List.Forall₂ Primitive.Alike (e'.foregroundPicture v) (e.foregroundPicture v))
  | shown (background : e'.background = e.background) (store : e'.store = e.store)
    (foreground : PaintsForeground e e')
  | painted (background : PaintsBackground e e') (foreground : PaintsForeground e e')
  | resized (v : Viewport Float) (request : request = .resize v)
    (background : PaintsBackground (e.resizeBackground v) e')
    (foreground : PaintsForeground (e.resizeForeground v) e')

variable {e e₁ e' : Editor} {request : Request}

theorem Painting.note (h : Painting e request e') (n : Notice) :
    Painting e request (e'.note n) := by
  cases h with
  | kept hb hf hs hp => exact .kept hb hf hs hp
  | shown hb hs hf => exact .shown hb hs hf
  | painted hb hf => exact .painted hb hf
  | resized v hv hb hf => exact .resized v hv hb hf

theorem Painting.cursor (h : Painting e request e') (c : Cursor) :
    Painting e request (e'.setCursor c).1 := by
  rw [fst_setCursor]
  cases h with
  | kept hb hf hs hp => exact .kept hb hf hs hp
  | shown hb hs hf => exact .shown hb hs hf
  | painted hb hf => exact .painted hb hf
  | resized v hv hb hf => exact .resized v hv hb hf

/-- An editor that is the same but for its journal and its cursor. -/
theorem Painting.same (hs : e'.store = e.store) (hp : e'.foregroundPicture = e.foregroundPicture)
    (hm : e'.mode = e.mode) (hb : e'.background = e.background)
    (hf : e'.foreground = e.foreground) : Painting e request e' := by
  refine .kept hb hf ?_ (Or.inr ⟨hm, fun v => ?_⟩)
  · rw [hs]
    exact .refl _
  · rw [hp]
    exact List.forall₂_same.mpr fun p _ => .refl p

/-! ### The parts of an editor -/

theorem backgroundPicture_congr {s t : Scene} (h : s.store = t.store) :
    s.backgroundPicture = t.backgroundPicture := by
  funext v
  rw [Scene.backgroundPicture, h, Scene.backgroundPicture]

theorem paintsForeground_paintForeground (e : Editor) : PaintsForeground e e.paintForeground := by
  simp [PaintsForeground]

theorem paintsForeground_switchTo (e : Editor) (next : Session) :
    PaintsForeground e (e.switchTo next).1 := by
  simp [PaintsForeground, switchTo]

theorem PaintsForeground.of_eq (h : PaintsForeground e₁ e') (he : e₁.foreground = e.foreground) :
    PaintsForeground e e' := by
  rwa [PaintsForeground, he] at h

theorem paintsForeground_adjustSession (e : Editor) : PaintsForeground e e.adjustSession := by
  obtain ⟨e₁, -, -, hf, h | ⟨next, h⟩⟩ := adjustSession_cases e
  · rw [h]
    exact (paintsForeground_paintForeground e₁).of_eq hf
  · rw [h]
    exact (paintsForeground_switchTo e₁ next).of_eq hf

theorem paintsForeground_afterListChange (hf : e₁.foreground = e.foreground) :
    PaintsForeground e e₁.afterListChange :=
  (paintsForeground_adjustSession e₁.paintBackground.dropLostHighlight).of_eq
    ((foreground_paintBackground e₁).trans hf)

theorem PaintsBackground.of_eq (h : PaintsBackground e e₁) (hb : e'.background = e₁.background)
    (hs : e'.store = e₁.store) : PaintsBackground e e' := by
  rw [PaintsBackground, hb, backgroundPicture_congr hs]
  exact h

theorem paintsBackground_paintBackground (hb : e₁.background = e.background) :
    PaintsBackground e e₁.paintBackground := by
  simp [PaintsBackground, hb]

/-! ### Operations -/

/-- The session ends after the background has been painted. -/
theorem painting_rest (hb : PaintsBackground e e₁) (hf : e₁.foreground = e.foreground) :
    Painting e request e₁.rest.1 :=
  .painted (hb.of_eq (by simp) (by simp)) ((paintsForeground_switchTo e₁ _).of_eq hf)

/-- The session is switched and nothing else happens. -/
theorem shown_switchTo (hb : e₁.background = e.background) (hs : e₁.store = e.store)
    (hf : e₁.foreground = e.foreground) (next : Session) :
    Painting e request (e₁.switchTo next).1 :=
  .shown (by simp [hb]) (by simp [hs]) ((paintsForeground_switchTo e₁ next).of_eq hf)

theorem shown_rest (hb : e₁.background = e.background) (hs : e₁.store = e.store)
    (hf : e₁.foreground = e.foreground) : Painting e request e₁.rest.1 :=
  shown_switchTo hb hs hf _

theorem shown_paintForeground (hb : e₁.background = e.background) (hs : e₁.store = e.store)
    (hf : e₁.foreground = e.foreground) : Painting e request e₁.paintForeground :=
  .shown (by simp [hb]) (by simp [hs]) ((paintsForeground_paintForeground e₁).of_eq hf)

theorem painting_paintForeground (hb : PaintsBackground e e₁)
    (hf : e₁.foreground = e.foreground) : Painting e request e₁.paintForeground :=
  .painted (hb.of_eq (by simp) (by simp)) ((paintsForeground_paintForeground e₁).of_eq hf)

theorem painting_afterListChange (hb : e₁.background = e.background)
    (hf : e₁.foreground = e.foreground) : Painting e request e₁.afterListChange := by
  exact .painted ((paintsBackground_paintBackground hb).of_eq (by simp) (by simp))
    (paintsForeground_afterListChange hf)

theorem paintsBackground_reset (e : Editor) (shapes : List (Shape Float)) :
    PaintsBackground e (e.reset shapes) := by
  have hpaint : PaintsBackground e
      ({ e with store := .empty, session := .idle, highlighted := none }.pushAll
        shapes).1.paintBackground := paintsBackground_paintBackground rfl
  exact hpaint.of_eq (background_rest _) (store_rest _)

theorem paintsForeground_reset (e : Editor) (shapes : List (Shape Float)) :
    PaintsForeground e (e.reset shapes) :=
  (paintsForeground_switchTo _ _).of_eq (foreground_paintBackground _)

theorem painting_reset (e : Editor) (request : Request) (shapes : List (Shape Float)) :
    Painting e request (e.reset shapes) :=
  .painted (paintsBackground_reset e shapes) (paintsForeground_reset e shapes)

theorem painting_addShape (e : Editor) (request : Request) (shape : Shape Float) :
    Painting e request (e.addShape shape).1 := by
  unfold addShape
  split
  · exact painting_afterListChange rfl rfl
  · exact .same rfl rfl rfl rfl rfl

theorem painting_delete (e : Editor) (request : Request) (selector : Selector) :
    Painting e request (e.delete selector).1 := by
  unfold delete
  refine painting_afterListChange ?_ ?_
  · split_ifs <;> rfl
  · split_ifs <;> rfl

theorem painting_setMode (e : Editor) (request : Request) (mode : ModeRequest) :
    Painting e request (e.setMode mode).1 := by
  cases mode with
  | detect => exact shown_switchTo rfl rfl rfl _
  | draw options => exact shown_switchTo rfl rfl rfl _
  | edit target =>
    unfold setMode
    dsimp only
    split
    · exact shown_switchTo rfl rfl rfl _
    · exact .same rfl rfl rfl rfl rfl

theorem painting_highlight (e : Editor) (request : Request) (i : Nat) :
    Painting e request (e.highlight i).1 := by
  unfold highlight
  split
  · exact shown_paintForeground rfl rfl rfl
  · exact .same rfl rfl rfl rfl rfl

theorem painting_redraw (e : Editor) (request : Request) (keep : Bool) :
    Painting e request (e.redraw keep) := by
  have hb : PaintsBackground e e.paintBackground := paintsBackground_paintBackground rfl
  unfold redraw
  dsimp only
  split_ifs
  · exact painting_paintForeground hb (by simp)
  · exact painting_rest hb (by simp)

theorem painting_resize (e : Editor) (v : Viewport Float) :
    Painting e (.resize v) (e.resize v) := by
  refine .resized v rfl ?_ ?_
  · simp [PaintsBackground, resize]
  · exact (paintsForeground_paintForeground _).of_eq (by simp)

/-! ### Events in detection and while a shape is drawn -/

theorem painting_detectMove (e : Editor) (request : Request) (d : Detection) (p : Point Float) :
    Painting e request (e.detectMove d p).1 :=
  .shown (by simp [detectMove]) (by simp [detectMove]) (by simp [PaintsForeground, detectMove])

theorem painting_detectClick (e : Editor) (request : Request) (d : Detection) :
    Painting e request (e.detectClick d).1 := by
  unfold detectClick
  split <;> exact .same rfl rfl rfl rfl rfl

theorem painting_commit (request : Request) (shape : Shape Float) (hm : e₁.mode = .draw)
    (hs : e₁.store = e.store) (hb : e₁.background = e.background)
    (hf : e₁.foreground = e.foreground) : Painting e request (e₁.commit shape).1 := by
  unfold commit
  split
  · refine .kept hb hf ?_ (Or.inl hm)
    rw [toScene_note, hs]
    exact .refl _
  · next store _ =>
    have hpaint : PaintsBackground e { e₁ with store }.paintBackground :=
      paintsBackground_paintBackground hb
    exact painting_rest (hpaint.of_eq rfl rfl) (by simp [hf])

theorem painting_drawEvent (e : Editor) (request : Request)
    (outcome : DrawingStep Float × Drawing Float) :
    Painting e request (e.drawEvent outcome).1 := by
  rcases outcome with ⟨_ | _ | shape, d⟩
  · exact .kept rfl rfl (.refl _) (Or.inl rfl)
  · exact shown_paintForeground rfl rfl rfl
  · exact painting_commit request shape rfl rfl rfl rfl

/-! ### Events while a shape is edited -/

theorem alike_highlightPicture {s t : Scene} (ht : s.theme = t.theme) {a b : Option (Shape Float)}
    (h : Option.Rel Shape.Alike a b) (v : Viewport Float) :
    List.Forall₂ Primitive.Alike (s.highlightPicture a v) (t.highlightPicture b v) := by
  cases h with
  | none => exact .nil
  | some h =>
    unfold Scene.highlightPicture
    rw [ht]
    exact h.highlight t.theme v

/-- What is shown while a shape is edited depends on the session only through its target. -/
theorem alike_foregroundPicture {s t : Scene} (ht : s.theme = t.theme)
    (hh : s.highlighted = t.highlighted) (hs : s.store.Alike t.store) {a b : Editing Float}
    (ha : s.session = .editing a) (hb : t.session = .editing b) (hab : a.target = b.target)
    (v : Viewport Float) :
    List.Forall₂ Primitive.Alike (s.foregroundPicture v) (t.foregroundPicture v) := by
  unfold Scene.foregroundPicture Scene.sessionPicture
  refine List.rel_append ?_ ?_
  · rw [hh]
    cases t.highlighted with
    | none => exact .nil
    | some id => exact alike_highlightPicture ht (hs.lookup id) v
  · simp only [ha, hb, hab, ht]
    have hlookup := hs.lookup b.target
    revert hlookup
    generalize s.store.lookup b.target = x, t.store.lookup b.target = y
    rintro (hxy | -)
    · have ho := hxy.geometry.overlay? v
      simp only [Option.bind_some]
      revert ho
      generalize Geometry.overlay? _ v = x, Geometry.overlay? _ v = y
      rintro (⟨hm, hh⟩ | -)
      · exact Overlay.alike_picture hm hh t.theme
      · exact .nil
    · exact .nil

theorem painting_editEvent (request : Request) {event : Nat → Shape Float → Editor × List Action}
    (h : ∀ i shape, e.editTarget? = some (i, shape) → Painting e request (event i shape).1) :
    Painting e request (e.editEvent event).1 := by
  unfold editEvent
  split
  · next i shape hi => exact h i shape hi
  · have hrest : Painting e request (e.note .targetLost).rest.1 := shown_rest rfl rfl rfl
    exact hrest

/-- An event that changes the session but not its target, and nothing else that is shown. -/
theorem Painting.sameTarget {s : Editing Float} (hs : e.session = .editing s) {s' : Editing Float}
    (hs' : e'.session = .editing s') (htarget : s'.target = s.target) (ht : e'.theme = e.theme)
    (hh : e'.highlighted = e.highlighted) (hstore : e'.store.Alike e.store)
    (hb : e'.background = e.background) (hf : e'.foreground = e.foreground) :
    Painting e request e' := by
  refine .kept hb hf hstore (Or.inr ⟨?_, fun v => ?_⟩)
  · rw [Scene.mode, hs', Scene.mode, hs]
    rfl
  · exact alike_foregroundPicture ht hh hstore hs' hs htarget v

variable {s : Editing Float}

theorem painting_editDown (hs : e.session = .editing s) (request : Request) (shape : Shape Float)
    (p : Point Float) : Painting e request (e.editDown s shape p).1 := by
  have htarget := s.target_pointerDown shape.geometry p e.foreground.viewport e.theme.handleRadius
  unfold editDown
  revert htarget
  rcases s.pointerDown shape.geometry p e.foreground.viewport e.theme.handleRadius with ⟨step, s'⟩
  intro htarget
  have hkept : Painting e request { e with session := .editing s' } :=
    .sameTarget hs rfl htarget rfl rfl (.refl _) rfl rfl
  dsimp only
  split
  · exact hkept.cursor _
  · exact hkept.cursor _
  · exact hkept

theorem painting_editUp (hs : e.session = .editing s) (request : Request) (shape : Shape Float)
    (p : Point Float) : Painting e request (e.editUp s shape p).1 := by
  have hkept : Painting e request { e with session := .editing s.pointerUp.2 } :=
    .sameTarget hs rfl s.target_pointerUp rfl rfl (.refl _) rfl rfl
  unfold editUp
  dsimp only
  split_ifs
  · exact hkept.cursor _
  · exact hkept

theorem painting_editClick (hs : e.session = .editing s) (request : Request) (i : Nat)
    (shape : Shape Float) (p : Point Float) :
    Painting e request (e.editClick s i shape p).1 := by
  unfold editClick
  dsimp only
  split_ifs
  · exact shown_rest rfl rfl rfl
  · exact .sameTarget hs rfl (s.target_click _ _ _ _) rfl rfl (.refl _) rfl rfl

theorem painting_editMove (hs : e.session = .editing s) (request : Request) {i : Nat}
    {shape : Shape Float} (hi : e.store.get? i = some shape) (p : Point Float) :
    Painting e request (e.editMove s i shape p).1 := by
  unfold editMove
  dsimp only
  split_ifs with hdrag hstep
  · exact painting_paintForeground (paintsBackground_paintBackground rfl) (by simp)
  · exact .sameTarget hs rfl (s.target_pointerMove _ _ _) rfl rfl
      (Store.Alike.modify hi ⟨Editing.alike_pointerMove hstep, rfl⟩) rfl rfl
  · exact .cursor (.same rfl rfl rfl rfl rfl) _

/-! ### All requests -/

theorem painting_pointerDown (e : Editor) (request : Request) (pixel : Point Float)
    (button : Button) : Painting e request (e.pointerDown pixel button).1 := by
  unfold pointerDown
  split_ifs
  · split
    · exact painting_drawEvent e request _
    · next s hs => exact painting_editEvent request fun _ _ _ => painting_editDown hs request _ _
    · exact .same rfl rfl rfl rfl rfl
    · exact .same rfl rfl rfl rfl rfl
  · exact .same rfl rfl rfl rfl rfl

theorem painting_pointerMove (e : Editor) (request : Request) (pixel : Point Float) :
    Painting e request (e.pointerMove pixel).1 := by
  unfold pointerMove
  split
  · exact painting_detectMove e request _ _
  · exact painting_drawEvent e request _
  · next s hs =>
    exact painting_editEvent request fun _ _ hi =>
      painting_editMove hs request (get?_of_editTarget? hi) _
  · exact .same rfl rfl rfl rfl rfl

theorem painting_pointerUp (e : Editor) (request : Request) (pixel : Point Float)
    (button : Button) : Painting e request (e.pointerUp pixel button).1 := by
  unfold pointerUp
  split_ifs
  · split
    · exact painting_drawEvent e request _
    · next s hs => exact painting_editEvent request fun _ _ _ => painting_editUp hs request _ _
    · exact .same rfl rfl rfl rfl rfl
    · exact .same rfl rfl rfl rfl rfl
  · exact .same rfl rfl rfl rfl rfl

theorem painting_click (e : Editor) (request : Request) (pixel : Point Float) :
    Painting e request (e.click pixel).1 := by
  unfold click
  split
  · exact painting_detectClick e request _
  · next s hs => exact painting_editEvent request fun _ _ _ => painting_editClick hs request _ _ _
  · exact .same rfl rfl rfl rfl rfl
  · exact .same rfl rfl rfl rfl rfl

theorem painting_doubleClick (e : Editor) (request : Request) :
    Painting e request e.doubleClick.1 := by
  unfold doubleClick
  split
  · exact painting_drawEvent e request _
  · exact .same rfl rfl rfl rfl rfl
  · exact .same rfl rfl rfl rfl rfl
  · exact .same rfl rfl rfl rfl rfl

/-- **Every request leaves the surfaces alone or paints what has to be shown.** -/
theorem painting_perform (e : Editor) : ∀ request, Painting e request (e.perform request).1
  | .init shapes => (painting_reset e _ shapes).note _
  | .reinit shapes => (painting_reset e _ shapes).note _
  | .addShape shape => painting_addShape e _ shape
  | .addShapes _ => painting_afterListChange rfl rfl
  | .redraw keep => painting_redraw e _ keep
  | .setStatus _ _ => painting_afterListChange rfl rfl
  | .setAttribute _ _ _ => painting_afterListChange rfl rfl
  | .delete selector => painting_delete e _ selector
  | .setMode mode => painting_setMode e _ mode
  | .highlight i => painting_highlight e _ i
  | .unhighlight => shown_paintForeground rfl rfl rfl
  | .resize v => painting_resize e v
  | .event (.down pixel button) => painting_pointerDown e _ pixel button
  | .event (.move pixel) => painting_pointerMove e _ pixel
  | .event (.up pixel button) => painting_pointerUp e _ pixel button
  | .event (.click pixel) => painting_click e _ pixel
  | .event (.doubleClick _) => painting_doubleClick e _

/-! ### What no request touches -/

theorem faults_perform (e : Editor) (request : Request) :
    (e.perform request).1.foreground.faults = e.foreground.faults := by
  cases painting_perform e request with
  | kept _ hf _ _ => rw [hf]
  | shown _ _ hf => rw [hf, Surface.faults_repaint]
  | painted _ hf => rw [hf, Surface.faults_repaint]
  | resized v _ _ hf =>
    rw [hf, Surface.faults_repaint, foreground_resizeForeground, Surface.faults_resize]

theorem faults_background_perform (e : Editor) (request : Request) :
    (e.perform request).1.background.faults = e.background.faults := by
  cases painting_perform e request with
  | kept hb _ _ _ => rw [hb]
  | shown hb _ _ => rw [hb]
  | painted hb _ => rw [hb, Surface.faults_repaint]
  | resized v _ hb _ =>
    rw [hb, Surface.faults_repaint, background_resizeBackground, Surface.faults_resize]

/-- No request but a change of the size touches the size of the foreground. -/
theorem viewport_perform_of_ne {request : Request} (hr : ∀ v, request ≠ .resize v) :
    (e.perform request).1.foreground.viewport = e.foreground.viewport := by
  cases painting_perform e request with
  | kept _ hf _ _ => rw [hf]
  | shown _ _ hf => rw [hf, Surface.viewport_repaint]
  | painted _ hf => rw [hf, Surface.viewport_repaint]
  | resized v hv _ _ => exact absurd hv (hr v)

end ShapeOverlay.Editor
