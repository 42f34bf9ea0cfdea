import ShapeOverlay.Proofs.Editor.Painting
import ShapeOverlay.Proofs.Scalar.Range
import ShapeOverlay.Proofs.Session.UnitSquare
import ShapeOverlay.Proofs.Store.Edits

/-! # Stored shapes lie in the unit square

`Scene.Fits N` says that every shape of the list can be stored, with numbers that have the property
`N`, and that the session remembers what it has to for this to stay so. Every request keeps it
(`fits_perform`), whatever becomes of the surfaces, as long as the numbers that the request brings
have the property, too. Of all floats this gives the bounds that no coordinate transgresses; of the
floats that are numbers it gives the unit range (`shapes_in_unitSquare`). -/

namespace ShapeOverlay

open Scalar

variable {N S : Float → Prop}

/-! ### Lists of shapes -/

/-- Every shape of the list can be stored. -/
def Store.Fits (N : Float → Prop) (s : Store Float) : Prop :=
  ∀ shape ∈ s.shapes, shape.geometry.Fits N

namespace Store

variable {s t : Store Float}

theorem fits_empty : (Store.empty : Store Float).Fits N := fun _ h => nomatch h

theorem fits_push (hN : Domain N S) (hs : s.Fits N) {shape : Shape Float}
    (hshape : shape.geometry.Has N) (h : s.push shape = some t) : t.Fits N := by
  obtain ⟨hc, rfl⟩ := push_eq_some_iff.mp h
  intro shape' hmem
  rcases List.mem_append.mp hmem with hmem | hmem
  · exact hs shape' hmem
  · rw [List.mem_singleton.mp hmem]
    exact Geometry.fits_clamped hN hshape hc

theorem fits_pushAll (hN : Domain N S) (hs : s.Fits N) {shapes : List (Shape Float)}
    (h : ∀ shape ∈ shapes, shape.geometry.Has N) : (s.pushAll shapes).1.Fits N := by
  refine List.foldlRecOn (motive := fun acc : _ × _ => Store.Fits N acc.1) shapes _ hs
    fun acc hacc shape hmem => ?_
  dsimp only
  split
  · next t ht => exact fits_push hN hacc (h shape hmem) ht
  · exact hacc

theorem fits_update (hs : s.Fits N) {f : Shape Float → Shape Float}
    (hf : ∀ shape, (f shape).geometry = shape.geometry) (places : List Nat) :
    (s.update places f).Fits N := by
  intro shape hmem
  obtain ⟨i, hi, rfl⟩ := List.mem_mapIdx.mp hmem
  split_ifs
  · rw [hf]
    exact hs _ (List.getElem_mem hi)
  · exact hs _ (List.getElem_mem hi)

theorem fits_modify (hs : s.Fits N) {shape : Shape Float} (h : shape.geometry.Fits N) (i : Nat) :
    (s.modify i fun _ => shape).Fits N := by
  intro t ht
  rcases mem_modify ht with hold | rfl
  · exact hs t hold
  · exact h

theorem fits_remove (hs : s.Fits N) (selector : Selector) : (s.remove selector).2.Fits N :=
  fun shape hmem => hs shape ((s.remove_sublist selector).subset hmem)

end Store

/-! ### Scenes and requests -/

/-- What the session has to remember. -/
def Session.Fits (N : Float → Prop) : Session → Prop
  | .idle | .detection _ => True
  | .drawing d => d.Fits N
  | .editing e => e.Fits N

/-- Every shape can be stored, and this stays so. -/
structure Scene.Fits (N : Float → Prop) (s : Scene) : Prop where
  store : s.store.Fits N
  session : s.session.Fits N

namespace Scene.Fits

variable {s : Scene}

theorem drawing (h : s.Fits N) {d : Drawing Float} (hd : s.session = .drawing d) : d.Fits N := by
  have hsession := h.session
  rwa [hd] at hsession

theorem editing (h : s.Fits N) {t : Editing Float} (ht : s.session = .editing t) : t.Fits N := by
  have hsession := h.session
  rwa [ht] at hsession

theorem target (h : s.Fits N) {i : Nat} {shape : Shape Float}
    (hi : s.editTarget? = some (i, shape)) : shape.geometry.Fits N :=
  h.store shape (List.mem_of_getElem? (Editor.get?_of_editTarget? hi))

end Scene.Fits

/-- The numbers that a request brings have the property, and so do the sizes. -/
def Request.Has (N S : Float → Prop) : Request → Prop
  | .init shapes | .reinit shapes | .addShapes shapes => ∀ shape ∈ shapes, shape.geometry.Has N
  | .addShape shape => shape.geometry.Has N
  | .resize v => v.Has S
  | .event (.down pixel _) | .event (.move pixel) | .event (.up pixel _) | .event (.click pixel)
  | .event (.doubleClick pixel) => pixel.Has N
  | .redraw _ | .setStatus _ _ | .setAttribute _ _ _ | .delete _ | .setMode _ | .highlight _
  | .unhighlight => True

theorem Request.has_of_forall (hN : ∀ a, N a) (hS : ∀ w, S w) : ∀ r : Request, r.Has N S
  | .init _ | .reinit _ | .addShapes _ => fun shape _ => shape.geometry.has_of_forall hN
  | .addShape shape => shape.geometry.has_of_forall hN
  | .resize v => ⟨hS v.width, hS v.height⟩
  | .event (.down pixel _) | .event (.move pixel) | .event (.up pixel _) | .event (.click pixel)
  | .event (.doubleClick pixel) => ⟨hN pixel.x, hN pixel.y⟩
  | .redraw _ | .setStatus _ _ | .setAttribute _ _ _ | .delete _ | .setMode _ | .highlight _
  | .unhighlight => trivial

namespace Editor

variable {e : Editor}

/-! ### The parts of an editor -/

theorem fits_setCursor (h : e.toScene.Fits N) (c : Cursor) : (e.setCursor c).1.toScene.Fits N :=
  ⟨by rw [store_setCursor]; exact h.store, by rw [session_setCursor]; exact h.session⟩

theorem fits_switchTo (h : e.store.Fits N) {next : Session} (hn : next.Fits N) :
    (e.switchTo next).1.toScene.Fits N :=
  ⟨by rw [store_switchTo]; exact h, by rw [session_switchTo]; exact hn⟩

theorem fits_rest (h : e.store.Fits N) : e.rest.1.toScene.Fits N := by
  refine fits_switchTo h ?_
  unfold Scene.restingSession
  split_ifs <;> trivial

theorem fits_paintForeground (h : e.toScene.Fits N) : e.paintForeground.toScene.Fits N := by
  rwa [toScene_paintForeground]

theorem fits_adjustSession (h : e.toScene.Fits N) : e.adjustSession.toScene.Fits N := by
  unfold adjustSession
  split
  · split_ifs
    · exact fits_paintForeground h
    · exact fits_switchTo h.store trivial
  · split_ifs
    · exact fits_switchTo h.store trivial
    · exact fits_paintForeground ⟨h.store, trivial⟩
  · exact fits_paintForeground h
  · split_ifs
    · exact fits_paintForeground h
    · exact fits_rest h.store

theorem fits_afterListChange (h : e.toScene.Fits N) : e.afterListChange.toScene.Fits N := by
  have hpaint : e.paintBackground.toScene.Fits N := by rwa [toScene_paintBackground]
  exact fits_adjustSession (e := e.paintBackground.dropLostHighlight)
    ⟨hpaint.store, hpaint.session⟩

/-! ### Operations -/

theorem fits_reset (hN : Domain N S) {shapes : List (Shape Float)}
    (h : ∀ shape ∈ shapes, shape.geometry.Has N) : (e.reset shapes).toScene.Fits N := by
  refine fits_rest ?_
  rw [toScene_paintBackground, store_pushAll]
  exact Store.fits_pushAll hN Store.fits_empty h

theorem fits_addShape (hN : Domain N S) (h : e.toScene.Fits N) {shape : Shape Float}
    (hshape : shape.geometry.Has N) : (e.addShape shape).1.toScene.Fits N := by
  unfold addShape
  split
  · next store hstore =>
    exact fits_afterListChange ⟨Store.fits_push hN h.store hshape hstore, h.session⟩
  · exact h

theorem fits_addShapes (hN : Domain N S) (h : e.toScene.Fits N) {shapes : List (Shape Float)}
    (hshapes : ∀ shape ∈ shapes, shape.geometry.Has N) :
    (e.addShapes shapes).1.toScene.Fits N :=
  fits_afterListChange ⟨Store.fits_pushAll hN h.store hshapes, h.session⟩

theorem fits_redraw (h : e.toScene.Fits N) (keep : Bool) : (e.redraw keep).toScene.Fits N := by
  have hpaint : e.paintBackground.toScene.Fits N := by rwa [toScene_paintBackground]
  unfold redraw
  dsimp only
  split_ifs
  · exact fits_paintForeground hpaint
  · exact fits_rest hpaint.store

theorem fits_setStatus (h : e.toScene.Fits N) (status : Status) (selector : Selector) :
    (e.setStatus status selector).1.toScene.Fits N := by
  refine fits_afterListChange ⟨?_, h.session⟩
  exact Store.fits_update (f := fun shape => { shape with status }) h.store (fun _ => rfl) _

theorem fits_setAttribute (h : e.toScene.Fits N) (name : String) (value : Value)
    (selector : Selector) : (e.setAttribute name value selector).1.toScene.Fits N := by
  refine fits_afterListChange ⟨?_, h.session⟩
  exact Store.fits_update h.store (fun shape => shape.geometry_withAttribute name value) _

theorem fits_delete (h : e.toScene.Fits N) (selector : Selector) :
    (e.delete selector).1.toScene.Fits N := by
  have hremove : Scene.Fits N { e.toScene with store := (e.store.remove selector).2 } :=
    ⟨Store.fits_remove h.store selector, h.session⟩
  unfold delete
  refine fits_afterListChange ?_
  split_ifs
  · exact hremove
  · exact hremove

theorem fits_setMode (hN : Domain N S) (h : e.toScene.Fits N) (mode : ModeRequest) :
    (e.setMode mode).1.toScene.Fits N := by
  cases mode with
  | detect => exact fits_rest h.store
  | draw options => exact fits_switchTo h.store (Drawing.fits_start hN options)
  | edit target =>
    unfold setMode
    dsimp only
    split
    · next id _ => exact fits_switchTo h.store (Editing.fits_start id)
    · exact h

theorem fits_highlight (h : e.toScene.Fits N) (i : Nat) : (e.highlight i).1.toScene.Fits N := by
  unfold highlight
  split
  · exact fits_paintForeground ⟨h.store, h.session⟩
  · exact h

theorem fits_unhighlight (h : e.toScene.Fits N) : e.unhighlight.toScene.Fits N := by
  have hsession := h.session
  unfold unhighlight
  refine fits_paintForeground ⟨h.store, ?_⟩
  dsimp only
  split
  · trivial
  · exact hsession

theorem fits_resize (h : e.toScene.Fits N) (v : Viewport Float) : (e.resize v).toScene.Fits N := by
  unfold resize
  simpa using h

/-! ### Events -/

theorem fits_detectMove (h : e.toScene.Fits N) (d : Detection) (p : Point Float) :
    (e.detectMove d p).1.toScene.Fits N := by
  refine fits_setCursor (fits_paintForeground ?_) _
  exact ⟨h.store, trivial⟩

theorem fits_detectClick (h : e.toScene.Fits N) (d : Detection) :
    (e.detectClick d).1.toScene.Fits N := by
  unfold detectClick
  split <;> exact h

theorem fits_commit (hN : Domain N S) (h : e.toScene.Fits N) {shape : Shape Float}
    (hshape : shape.geometry.Has N) : (e.commit shape).1.toScene.Fits N := by
  unfold commit
  split
  · exact h
  · next store hstore =>
    refine fits_rest ?_
    rw [toScene_note, toScene_paintBackground]
    exact Store.fits_push hN h.store hshape hstore

theorem fits_drawEvent (hN : Domain N S) (h : e.toScene.Fits N)
    {outcome : DrawingStep Float × Drawing Float} (hstep : outcome.1.Has N)
    (hd : outcome.2.Fits N) : (e.drawEvent outcome).1.toScene.Fits N := by
  have hsession : Scene.Fits N { e.toScene with session := .drawing outcome.2 } := ⟨h.store, hd⟩
  unfold drawEvent
  split
  · exact hsession
  · exact fits_paintForeground hsession
  · next shape hcommit =>
    rw [hcommit] at hstep
    refine fits_commit hN ?_ hstep
    exact ⟨h.store, hd⟩

theorem fits_editEvent (h : e.toScene.Fits N) {event : Nat → Shape Float → Editor × List Action}
    (hevent : ∀ i shape, e.editTarget? = some (i, shape) → (event i shape).1.toScene.Fits N) :
    (e.editEvent event).1.toScene.Fits N := by
  unfold editEvent
  split
  · next i shape hi => exact hevent i shape hi
  · exact fits_rest h.store

variable {s : Editing Float} {p : Point Float} {shape : Shape Float}

theorem fits_editDown (hN : Domain N S) (h : e.toScene.Fits N) (hv : e.foreground.viewport.Has S)
    (hs : s.Fits N) (hshape : shape.geometry.Fits N) (hp : p.Fits N) :
    (e.editDown s shape p).1.toScene.Fits N := by
  have hdown := Editing.fits_pointerDown hN hv hs hshape hp e.theme.handleRadius
  unfold editDown
  revert hdown
  rcases s.pointerDown shape.geometry p e.foreground.viewport e.theme.handleRadius with ⟨step, s'⟩
  intro hdown
  have hscene : Scene.Fits N { e.toScene with session := .editing s' } := ⟨h.store, hdown⟩
  dsimp only
  split
  · exact fits_setCursor hscene _
  · exact fits_setCursor hscene _
  · exact hscene

theorem fits_editMove (hN : Domain N S) (h : e.toScene.Fits N) (hv : e.foreground.viewport.Has S)
    (hs : s.Fits N) (hshape : shape.geometry.Fits N) (hp : p.Fits N) (i : Nat) :
    (e.editMove s i shape p).1.toScene.Fits N := by
  have hgeometry := Editing.fits_pointerMove hN hv hs hshape hp
  have hsession : (s.pointerMove shape.geometry p e.foreground.viewport).2.2.Fits N := by
    intro d hd
    rw [Editing.drag_pointerMove] at hd
    exact hs d hd
  unfold editMove
  dsimp only
  split_ifs
  · refine fits_paintForeground ?_
    rw [toScene_paintBackground]
    exact ⟨Store.fits_modify h.store hgeometry i, hsession⟩
  · exact ⟨Store.fits_modify h.store hgeometry i, hsession⟩
  · exact fits_setCursor h _

theorem fits_editUp (h : e.toScene.Fits N) : (e.editUp s shape p).1.toScene.Fits N := by
  have hscene : Scene.Fits N { e.toScene with session := .editing s.pointerUp.2 } := by
    refine ⟨h.store, fun d hd => ?_⟩
    rw [Editing.drag_pointerUp] at hd
    cases hd
  unfold editUp
  dsimp only
  split_ifs
  · exact fits_setCursor hscene _
  · exact hscene

theorem fits_editClick (h : e.toScene.Fits N) (hs : s.Fits N) (i : Nat) :
    (e.editClick s i shape p).1.toScene.Fits N := by
  unfold editClick
  dsimp only
  split_ifs
  · exact fits_rest h.store
  · refine ⟨h.store, fun d hd => ?_⟩
    rw [Editing.drag_click] at hd
    exact hs d hd

theorem fits_pointAt (hN : Domain N S) (hv : e.foreground.viewport.Has S) {pixel : Point Float}
    (hp : pixel.Has N) : (e.pointAt pixel).Fits N :=
  Viewport.fits_toRelative hN hv hp

variable {pixel : Point Float}

theorem fits_pointerDown (hN : Domain N S) (h : e.toScene.Fits N)
    (hv : e.foreground.viewport.Has S) (hp : pixel.Has N) (button : Button) :
    (e.pointerDown pixel button).1.toScene.Fits N := by
  have hpoint := fits_pointAt hN hv hp
  unfold pointerDown
  split_ifs
  · split
    · next d hd =>
      have hdown := Drawing.fits_pointerDown (h.drawing hd) hpoint
      exact fits_drawEvent hN h hdown.1 hdown.2
    · next s hs =>
      exact fits_editEvent h fun i shape hi =>
        fits_editDown hN h hv (h.editing hs) (h.target hi) hpoint
    · exact h
    · exact h
  · exact h

theorem fits_pointerMove (hN : Domain N S) (h : e.toScene.Fits N)
    (hv : e.foreground.viewport.Has S) (hp : pixel.Has N) :
    (e.pointerMove pixel).1.toScene.Fits N := by
  have hpoint := fits_pointAt hN hv hp
  unfold pointerMove
  split
  · exact fits_detectMove h _ _
  · next d hd =>
    have hmove := Drawing.fits_pointerMove hN (h.drawing hd) hpoint e.foreground.viewport
    exact fits_drawEvent hN h hmove.1 hmove.2
  · next s hs =>
    exact fits_editEvent h fun i shape hi =>
      fits_editMove hN h hv (h.editing hs) (h.target hi) hpoint i
  · exact h

theorem fits_pointerUp (hN : Domain N S) (h : e.toScene.Fits N)
    (hv : e.foreground.viewport.Has S) (hp : pixel.Has N) (button : Button) :
    (e.pointerUp pixel button).1.toScene.Fits N := by
  have hpoint := fits_pointAt hN hv hp
  unfold pointerUp
  split_ifs
  · split
    · next d hd =>
      have hup := Drawing.fits_pointerUp hN (h.drawing hd) hpoint e.foreground.viewport e.ids.next
      exact fits_drawEvent hN h hup.1 hup.2
    · exact fits_editEvent h fun i shape hi => fits_editUp h
    · exact h
    · exact h
  · exact h

theorem fits_click (h : e.toScene.Fits N) (pixel : Point Float) :
    (e.click pixel).1.toScene.Fits N := by
  unfold click
  split
  · exact fits_detectClick h _
  · next s hs => exact fits_editEvent h fun i shape hi => fits_editClick h (h.editing hs) i
  · exact h
  · exact h

theorem fits_doubleClick (hN : Domain N S) (h : e.toScene.Fits N) :
    e.doubleClick.1.toScene.Fits N := by
  unfold doubleClick
  split
  · next d hd =>
    have hdouble := Drawing.fits_doubleClick (h.drawing hd) e.ids.next
    exact fits_drawEvent hN h hdouble.1 hdouble.2
  · exact h
  · exact h
  · exact h

/-! ### Runs -/

/-- **Every request keeps all shapes such that they can be stored.** -/
theorem fits_perform (hN : Domain N S) (h : e.toScene.Fits N) (hv : e.foreground.viewport.Has S) :
    ∀ request : Request, request.Has N S → (e.perform request).1.toScene.Fits N
  | .init _, hr | .reinit _, hr => fits_reset hN hr
  | .addShape _, hr => fits_addShape hN h hr
  | .addShapes _, hr => fits_addShapes hN h hr
  | .redraw keep, _ => fits_redraw h keep
  | .setStatus status selector, _ => fits_setStatus h status selector
  | .setAttribute name value selector, _ => fits_setAttribute h name value selector
  | .delete selector, _ => fits_delete h selector
  | .setMode mode, _ => fits_setMode hN h mode
  | .highlight i, _ => fits_highlight h i
  | .unhighlight, _ => fits_unhighlight h
  | .resize v, _ => fits_resize h v
  | .event (.down _ button), hr => fits_pointerDown hN h hv hr button
  | .event (.move _), hr => fits_pointerMove hN h hv hr
  | .event (.up _ button), hr => fits_pointerUp hN h hv hr button
  | .event (.click pixel), _ => fits_click h pixel
  | .event (.doubleClick _), _ => fits_doubleClick hN h

end Editor

end ShapeOverlay
