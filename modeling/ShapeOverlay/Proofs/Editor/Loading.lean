import ShapeOverlay.Proofs.Editor.Consistency
import ShapeOverlay.Proofs.Editor.Renewal

/-! # Putting shapes in together or one by one

A list accepts the shapes whose geometries are complete, and puts them in at its end
(`Store.pushAll_eq`). Where a session refers to nothing that is not in the list
(`Scene.Anchored`), more shapes at the end have one effect on it, whichever shapes they are:
detection begins or forgets what it found, an edit goes on if it can, and a drawing goes on
(`Scene.grown`). To be brought in line with the shapes a second time changes nothing, so that shapes
may be put in together or in parts (`Scene.loaded_append`), and one by one
(`Editor.toScene_run_addShape`). The surfaces show what they have to in either case
(`Editor.Repainted`), and every run keeps a session anchored (`Editor.anchored_run`). -/

namespace ShapeOverlay

/-! ### Accepted shapes -/

namespace Store

variable {α : Type} [Scalar α]

/-- Those of some shapes that a list accepts, as it puts them in. -/
def accepted (shapes : List (Shape α)) : List (Shape α) :=
  (shapes.filter (·.geometry.isComplete)).map Shape.clamped

/-- For each of some shapes the place that it gets in a list of a size, if it is accepted. -/
def places (n : Nat) : List (Shape α) → List (Option Nat)
  | [] => []
  | shape :: shapes =>
    if shape.geometry.isComplete then some n :: places (n + 1) shapes else none :: places n shapes

theorem accepted_ne_nil_iff {shapes : List (Shape α)} :
    accepted shapes ≠ [] ↔ ∃ shape ∈ shapes, shape.geometry.isComplete = true := by
  simp [accepted]

theorem foldl_push (shapes : List (Shape α)) : ∀ (s : Store α) (done : List (Option Nat)),
    shapes.foldl (fun (s, places) shape =>
      match s.push shape with
      | some s' => (s', places ++ [some s.size])
      | none => (s, places ++ [none])) (s, done) =
    (⟨s.shapes ++ accepted shapes⟩, done ++ places s.size shapes) := by
  induction shapes with
  | nil => simp [accepted, places]
  | cons shape shapes ih =>
    intro s done
    rw [List.foldl_cons]
    show List.foldl _ (match s.push shape with
      | some s' => (s', done ++ [some s.size])
      | none => (s, done ++ [none])) shapes = _
    by_cases h : shape.geometry.isComplete = true
    · have hpush : s.push shape = some ⟨s.shapes ++ [shape.clamped]⟩ := if_pos h
      rw [hpush]
      refine (ih _ _).trans ?_
      simp [accepted, places, h, size]
    · have hpush : s.push shape = none := if_neg h
      rw [hpush]
      refine (ih _ _).trans ?_
      simp [accepted, places, h]

/-- **What becomes of shapes that are put in together**: those that are accepted stand at the end,
in order. -/
theorem pushAll_eq (s : Store α) (shapes : List (Shape α)) :
    s.pushAll shapes = (⟨s.shapes ++ accepted shapes⟩, places s.size shapes) :=
  foldl_push shapes s []

omit [Scalar α] in
/-- The first shape with an identity is the same with more shapes behind it. -/
theorem indexOf?_append {s : Store α} {id : Identifier} (h : (s.indexOf? id).isSome = true)
    (shapes : List (Shape α)) : (⟨s.shapes ++ shapes⟩ : Store α).indexOf? id = s.indexOf? id := by
  obtain ⟨i, hi⟩ := Option.isSome_iff_exists.1 h
  unfold indexOf? at hi ⊢
  rw [List.findIdx?_append, hi]
  rfl

end Store

/-! ### Longer lists -/

namespace Scene

variable {s : Scene} {shapes more : List (Shape Float)} {id : Identifier}

/-- The shape that is edited is in the list. -/
def HoldsTarget (s : Scene) : Prop :=
  ∀ id, s.editing? = some id → (s.store.indexOf? id).isSome = true

/-- The shapes to which session and highlight refer are in the list. -/
structure Anchored (s : Scene) : Prop where
  target : s.HoldsTarget
  highlighted : ∀ id, s.highlighted = some id → (s.store.indexOf? id).isSome = true

/-- The scene with more shapes at the end of the list. -/
def extended (s : Scene) (shapes : List (Shape Float)) : Scene :=
  { s with store := ⟨s.store.shapes ++ shapes⟩ }

theorem activeShape?_extended (h : (s.store.indexOf? id).isSome = true) :
    (s.extended shapes).activeShape? id = s.activeShape? id := by
  obtain ⟨i, hi⟩ := Option.isSome_iff_exists.1 h
  have hi' : (s.extended shapes).store.indexOf? id = some i :=
    (Store.indexOf?_append h shapes).trans hi
  obtain ⟨shape, hshape, -⟩ := Store.get?_of_indexOf? hi
  have hshape' : (s.extended shapes).store.get? i = some shape := by
    obtain ⟨hlt, hget⟩ := List.getElem?_eq_some_iff.1 hshape
    refine (List.getElem?_append_left hlt).trans ?_
    exact List.getElem?_eq_some_iff.2 ⟨hlt, hget⟩
  unfold activeShape?
  rw [hi, hi', Option.bind_eq_bind, Option.bind_some, Option.bind_some, hshape, hshape']

/-- The shape that is edited is the same with more shapes behind it, if it is in the list. -/
theorem editTarget?_extended (h : s.HoldsTarget) :
    (s.extended shapes).editTarget? = s.editTarget? := by
  have hediting : (s.extended shapes).editing? = s.editing? := rfl
  unfold editTarget?
  rw [hediting]
  cases hs : s.editing? with
  | none => rfl
  | some id => exact activeShape?_extended (h id hs)

theorem holdsTarget_of_editTarget? (h : s.editTarget?.isSome = true) : s.HoldsTarget := by
  intro id hs
  obtain ⟨⟨i, shape⟩, hi⟩ := Option.isSome_iff_exists.1 h
  rw [editTarget?, hs, Option.bind_some] at hi
  exact Option.isSome_iff_exists.2 ⟨i, (activeShape?_eq_some_iff.1 hi).1⟩

/-! ### The effect of more shapes -/

/-- **The scene with its session brought in line with more shapes**, before they are put in. -/
def grown (s : Scene) : Scene :=
  match s.session with
  | .idle => s.switched (.detection {})
  | .detection _ => { s with session := .detection {} }
  | .drawing _ => s
  | .editing _ => if s.editTarget?.isSome then s else s.switched (.detection {})

/-- **The scene with more shapes**, and its session brought in line with them. -/
def loaded (s : Scene) : List (Shape Float) → Scene
  | [] => s
  | shape :: shapes => s.grown.extended (shape :: shapes)

theorem loaded_of_ne_nil (h : shapes ≠ []) : s.loaded shapes = s.grown.extended shapes := by
  cases shapes with
  | nil => exact absurd rfl h
  | cons shape shapes => rfl

theorem extended_extended :
    (s.extended shapes).extended more = s.extended (shapes ++ more) := by
  simp [extended]

theorem not_isEmpty_extended (h : shapes ≠ []) :
    ¬ (s.extended shapes).store.isEmpty = true := by
  simp [extended, Store.isEmpty, h]

theorem store_grown (s : Scene) : s.grown.store = s.store := by
  unfold grown
  cases s.session with
  | idle | detection d | drawing d => rfl
  | editing t =>
    dsimp only
    split_ifs <;> rfl

theorem store_loaded (s : Scene) : ∀ shapes : List (Shape Float),
    (s.loaded shapes).store = ⟨s.store.shapes ++ shapes⟩
  | [] => by rw [List.append_nil]; rfl
  | shape :: shapes => by
    show (⟨s.grown.store.shapes ++ shape :: shapes⟩ : Store Float) = _
    rw [store_grown]

/-- **To grow a second time changes nothing.** -/
theorem grown_extended_grown : (s.grown.extended shapes).grown = s.grown.extended shapes := by
  cases hs : s.session with
  | idle => simp only [grown, hs, switched, extended]
  | detection d => simp only [grown, hs, extended]
  | drawing d => simp only [grown, hs, extended]
  | editing t =>
    by_cases htarget : s.editTarget?.isSome = true
    · have hgrown : s.grown = s := by simp only [grown, hs, htarget, if_true]
      have htarget' : (s.extended shapes).editTarget?.isSome = true := by
        rw [editTarget?_extended (holdsTarget_of_editTarget? htarget)]
        exact htarget
      have hs' : (s.extended shapes).session = .editing t := hs
      rw [hgrown, grown, hs']
      exact if_pos htarget'
    · have hgrown : s.grown = s.switched (.detection {}) := by
        simp only [grown, hs, htarget]
        rfl
      rw [hgrown]
      rfl

/-- **Shapes may be put in together or in parts.** -/
theorem loaded_append : ∀ shapes more : List (Shape Float),
    s.loaded (shapes ++ more) = (s.loaded shapes).loaded more
  | [], _ => rfl
  | shape :: shapes, [] => by rw [List.append_nil]; rfl
  | shape :: shapes, other :: more => by
    show s.grown.extended (shape :: shapes ++ other :: more) =
      (s.grown.extended (shape :: shapes)).grown.extended (other :: more)
    rw [grown_extended_grown, extended_extended]

theorem shedHighlight_of_stored
    (h : ∀ id, s.highlighted = some id → (s.store.indexOf? id).isSome = true) :
    s.shedHighlight = s := by
  have hfilter : (s.highlighted.filter fun id => (s.store.indexOf? id).isSome) =
      s.highlighted := by
    cases hs : s.highlighted with
    | none => rfl
    | some id => rw [Option.filter_some, if_pos (h id hs)]
  unfold shedHighlight
  rw [hfilter]

/-- **Whichever shapes are put in, an anchored session is brought in line with them alike.** -/
theorem settled_extended (h : s.Anchored) (hne : shapes ≠ []) :
    (s.extended shapes).settled = s.loaded shapes := by
  have hnonempty := not_isEmpty_extended (s := s) hne
  have hshed : (s.extended shapes).shedHighlight = s.extended shapes :=
    shedHighlight_of_stored fun id hid => by
      have hstored := h.highlighted id hid
      exact (congrArg Option.isSome (Store.indexOf?_append hstored shapes)).trans hstored
  have htarget : (s.extended shapes).editTarget? = s.editTarget? := editTarget?_extended h.target
  have hsession : (s.extended shapes).session = s.session := rfl
  rw [settled, hshed, loaded_of_ne_nil hne]
  unfold adjusted grown
  rw [hsession, htarget, rested_of_not_isEmpty hnonempty, if_neg hnonempty]
  cases s.session with
  | idle => rfl
  | detection d => exact if_neg hnonempty
  | drawing d => rfl
  | editing t =>
    dsimp only
    split_ifs <;> rfl

end Scene

/-! ### The shape that is edited stays in the list -/

namespace Scene

variable {s : Scene}

theorem holdsTarget_of_none (h : s.editing? = none) : s.HoldsTarget := by
  intro id hid
  rw [h] at hid
  cases hid

theorem holdsTarget_rested (s : Scene) : s.rested.HoldsTarget := by
  refine holdsTarget_of_none ?_
  have hsession : s.rested.session = s.restingSession := rfl
  unfold editing?
  rw [hsession]
  unfold restingSession
  split_ifs <;> rfl

/-- **Whatever the list has become, a session that goes on finds its shape in it.** -/
theorem holdsTarget_adjusted (s : Scene) : s.adjusted.HoldsTarget := by
  unfold adjusted
  cases hs : s.session with
  | idle =>
    dsimp only
    split_ifs
    · exact holdsTarget_of_none (by rw [editing?, hs])
    · exact holdsTarget_rested s
  | detection d =>
    dsimp only
    split_ifs
    · exact holdsTarget_rested s
    · exact holdsTarget_of_none rfl
  | drawing d => exact holdsTarget_of_none (by rw [editing?, hs])
  | editing t =>
    dsimp only
    split_ifs with htarget
    · exact holdsTarget_of_editTarget? htarget
    · exact holdsTarget_rested s

theorem holdsTarget_settled (s : Scene) : s.settled.HoldsTarget :=
  holdsTarget_adjusted s.shedHighlight

end Scene

namespace Editor

variable {e e₁ e₂ e' : Editor}

theorem holdsTarget_setMode (h : e.HoldsTarget) (mode : ModeRequest) :
    (outcome (e.setMode mode)).1.HoldsTarget := by
  rw [outcome_setMode]
  cases mode with
  | detect => exact Scene.holdsTarget_rested _
  | draw options => exact Scene.holdsTarget_of_none rfl
  | edit target =>
    dsimp only
    cases hid : e.resolve target with
    | none => exact h
    | some id =>
      obtain ⟨i, shape, hi, -, rfl⟩ := resolve_eq_some hid
      rintro id ⟨⟩
      exact Store.isSome_indexOf?_iff.2 ⟨shape, Store.mem_of_get? hi, rfl⟩

theorem holdsTarget_handle (h : e.HoldsTarget) (event : Event) :
    (outcome (e.handle event)).1.HoldsTarget := by
  cases handled e event with
  | idle _ hx => rwa [hx]
  | detection d hs hx =>
    rw [hx]
    cases event with
    | move pixel => exact Scene.holdsTarget_of_none rfl
    | down _ _ | up _ _ | click _ | doubleClick _ => exact h
  | drawing d hs hx =>
    rw [hx]
    cases drawn_cases e.toScene (d.respond e.foreground.viewport e.ids.next event) with
    | goesOn d ids hy =>
      rw [hy]
      exact Scene.holdsTarget_of_none rfl
    | finished shape ids hy =>
      rw [hy]
      exact Scene.holdsTarget_of_none rfl
  | editing t i shape hs hi hx =>
    rw [hx]
    have hshape := get?_of_editTarget? hi
    cases hr : t.respond shape.geometry e.foreground.viewport e.theme.handleRadius e.cursor event
      with
    | none => exact Scene.holdsTarget_rested _
    | some r =>
      rintro id ⟨⟩
      rw [Store.indexOf?_congr (map_id_edited hshape (some r)), Editing.target_respond hr]
      exact h t.target (by rw [Scene.editing?, hs])
  | lost t _ _ hx =>
    rcases hx with hx | hx <;> rw [hx]
    · exact Scene.holdsTarget_rested _
    · exact h

/-- **Every request leaves the shape that is edited in the list**, or ends the session. -/
theorem holdsTarget_perform (h : e.HoldsTarget) (request : Request) :
    (e.perform request).1.HoldsTarget := by
  show (outcome (e.perform request)).1.HoldsTarget
  cases request with
  | init shapes | reinit shapes =>
    simp only [perform, outcome, init, reinit, toScene_note, toScene_reset]
    exact Scene.holdsTarget_rested _
  | addShape shape =>
    rw [perform, outcome_map, outcome_addShape]
    cases e.store.push shape with
    | none => exact h
    | some store => exact Scene.holdsTarget_settled _
  | addShapes shapes =>
    rw [perform, outcome_map, outcome_addShapes]
    exact Scene.holdsTarget_settled _
  | redraw keep =>
    simp only [perform, outcome, toScene_redraw]
    split_ifs
    · exact h
    · exact Scene.holdsTarget_rested _
  | setStatus status selector =>
    rw [perform, outcome_map, outcome_setStatus]
    exact Scene.holdsTarget_settled _
  | setAttribute name value selector =>
    rw [perform, outcome_map, outcome_setAttribute]
    exact Scene.holdsTarget_settled _
  | delete selector =>
    rw [perform, outcome_map, outcome_delete]
    exact Scene.holdsTarget_settled _
  | setMode mode => exact holdsTarget_setMode h mode
  | highlight i =>
    rw [perform, outcome_map, outcome_highlight]
    cases e.store.get? i with
    | none => exact h
    | some shape => exact h
  | unhighlight =>
    simp only [perform, outcome, toScene_unhighlight]
    cases hs : e.session with
    | editing t =>
      rintro id ⟨⟩
      exact h t.target (by rw [Scene.editing?, hs])
    | idle | detection d | drawing d => exact Scene.holdsTarget_of_none rfl
  | resize v =>
    simp only [perform, outcome, toScene_resize]
    exact h
  | event event => exact holdsTarget_handle h event

theorem anchored_run (background foreground : Surface Float) (theme : Theme) (ids : IdSupply)
    (requests : List Request) :
    ((start background foreground theme ids).run requests).1.Anchored where
  target := by
    have hstart : (start background foreground theme ids).HoldsTarget :=
      Scene.holdsTarget_of_none rfl
    exact run_keeps (P := fun e => e.HoldsTarget) (fun _ r h => holdsTarget_perform h r) hstart
      requests
  highlighted := (consistent_run background foreground theme ids requests).highlighted

/-! ### One shape after the other -/

open Store (accepted places)

theorem anchored_settled (s : Scene) : s.settled.Anchored :=
  ⟨s.holdsTarget_settled, s.consistent_settled.highlighted⟩

/-- **One more shape**, if it is accepted, is put in like several. -/
theorem outcome_addShape_of_anchored (h : e.Anchored) (shape : Shape Float) :
    outcome (e.addShape shape) = (e.toScene.loaded (accepted [shape]),
      if shape.geometry.isComplete then some e.store.size else none) := by
  rw [outcome_addShape]
  by_cases hcomplete : shape.geometry.isComplete = true
  · have hpush : e.store.push shape = some ⟨e.store.shapes ++ [shape.clamped]⟩ := if_pos hcomplete
    have haccepted : accepted [shape] = [shape.clamped] := by simp [accepted, hcomplete]
    have hsettled := Scene.settled_extended h (List.cons_ne_nil shape.clamped [])
    rw [hpush, haccepted, if_pos hcomplete, ← hsettled]
    rfl
  · have hpush : e.store.push shape = none := if_neg hcomplete
    have haccepted : accepted [shape] = [] := by simp [accepted, hcomplete]
    rw [hpush, haccepted, if_neg hcomplete]
    rfl

/-- Several shapes are put in and the scene is brought in line once. -/
theorem outcome_addShapes_extended (e : Editor) (shapes : List (Shape Float)) :
    outcome (e.addShapes shapes) =
      ((e.extended (accepted shapes)).settled, (places e.store.size shapes).filterMap id) := by
  rw [outcome_addShapes, Store.pushAll_eq]
  rfl

theorem anchored_addShape (h : e.Anchored) (shape : Shape Float) :
    (outcome (e.addShape shape)).1.Anchored := by
  rw [outcome_addShape]
  cases e.store.push shape with
  | none => exact h
  | some store => exact anchored_settled _

/-- **Shapes that are put in one by one** leave the scene as if they were put in together, and each
is answered by the place that it has got. -/
theorem outcome_run_addShape (shapes : List (Shape Float)) : ∀ {e : Editor}, e.Anchored →
    (e.run (shapes.map .addShape)).1.toScene = e.toScene.loaded (accepted shapes) ∧
      (e.run (shapes.map .addShape)).2 = (places e.store.size shapes).map .place := by
  induction shapes with
  | nil => exact fun _ => ⟨rfl, rfl⟩
  | cons shape shapes ih =>
    intro e h
    obtain ⟨hscene, hplace⟩ := Prod.mk.inj (outcome_addShape_of_anchored h shape)
    obtain ⟨hrest, hreplies⟩ := ih (anchored_addShape h shape)
    have haccepted : accepted (shape :: shapes) = accepted [shape] ++ accepted shapes := by
      simp only [accepted, ← List.map_append, ← List.filter_append, List.singleton_append]
    rw [List.map_cons, run_cons]
    constructor
    · refine hrest.trans ?_
      rw [hscene, haccepted, Scene.loaded_append]
    · have hsize : (e.addShape shape).1.store.size = e.store.size + (accepted [shape]).length := by
        rw [hscene, Scene.store_loaded]
        exact List.length_append
      show Reply.place (e.addShape shape).2 :: _ = _
      refine (congrArg₂ List.cons (congrArg Reply.place hplace) hreplies).trans ?_
      rw [hsize]
      by_cases hcomplete : shape.geometry.isComplete = true
      · simp [accepted, places, hcomplete]
      · simp [accepted, places, hcomplete]

/-! ### What the surfaces show -/

/-- The surfaces of `e'` have the sizes of those of `e`, show what they have to, and never fail. -/
structure Repainted (e e' : Editor) : Prop where
  backgroundSize : e'.background.viewport = e.background.viewport
  foregroundSize : e'.foreground.viewport = e.foreground.viewport
  background : e'.background.primitives = e'.backgroundPicture e'.background.viewport
  foreground : e'.foreground.primitives = e'.foregroundPicture e'.foreground.viewport
  faultless : Faultless e'

theorem repainted_of_paints (h : Faultless e) (hb : PaintsBackground e e')
    (hf : PaintsForeground e e') : Repainted e e' where
  backgroundSize := by rw [hb, Surface.viewport_repaint]
  foregroundSize := by rw [hf, Surface.viewport_repaint]
  background := by rw [hb, Surface.primitives_repaint h.background, Surface.viewport_repaint]
  foreground := by rw [hf, Surface.primitives_repaint h.foreground, Surface.viewport_repaint]
  faultless := by
    constructor
    · rw [hb]
      exact h.background.repaint _
    · rw [hf]
      exact h.foreground.repaint _

theorem repainted_afterListChange (h : Faultless e) (hb : e₁.background = e.background)
    (hf : e₁.foreground = e.foreground) : Repainted e e₁.afterListChange :=
  repainted_of_paints h ((paintsBackground_paintBackground hb).of_eq (by simp) (by simp))
    (paintsForeground_afterListChange hf)

theorem Repainted.trans (h : Repainted e e₁) (h' : Repainted e₁ e') : Repainted e e' :=
  ⟨h'.backgroundSize.trans h.backgroundSize, h'.foregroundSize.trans h.foregroundSize,
    h'.background, h'.foreground, h'.faultless⟩

theorem Repainted.again (h : Repainted e e') : Repainted e' e' :=
  ⟨rfl, rfl, h.background, h.foreground, h.faultless⟩

theorem Repainted.note {n : Notice} (h : Repainted e e') : Repainted e (e'.note n) :=
  ⟨h.backgroundSize, h.foregroundSize, h.background, h.foreground, h.faultless.background,
    h.faultless.foreground⟩

theorem Repainted.of_note {n : Notice} (h : Repainted (e.note n) e') : Repainted e e' :=
  ⟨h.backgroundSize, h.foregroundSize, h.background, h.foreground, h.faultless⟩

/-- **Surfaces that show what they have to cannot be told apart** where the scene is the same. -/
theorem Repainted.indistinct (h₁ : Repainted e e₁) (h₂ : Repainted e e₂)
    (hscene : e₁.toScene = e₂.toScene) : Indistinct e₁ e₂ := by
  have hback := h₁.backgroundSize.trans h₂.backgroundSize.symm
  have hfore := h₁.foregroundSize.trans h₂.foregroundSize.symm
  refine ⟨hscene, ⟨hback, ?_, h₁.faultless.background, h₂.faultless.background⟩,
    ⟨hfore, ?_, h₁.faultless.foreground, h₂.faultless.foreground⟩⟩
  · rw [h₁.background, h₂.background, hscene, hback]
  · rw [h₁.foreground, h₂.foreground, hscene, hfore]

/-- Shapes of which one is accepted are painted, and so is the scene if all are refused but it was
painted already. -/
theorem repainted_run_addShape (shapes : List (Shape Float)) : ∀ {e : Editor}, Faultless e →
    accepted shapes ≠ [] ∨ Repainted e e → Repainted e (e.run (shapes.map .addShape)).1 := by
  induction shapes with
  | nil => exact fun _ h => h.resolve_left fun hne => hne rfl
  | cons shape shapes ih =>
    intro e hfaultless h
    have hperform : Faultless (e.addShape shape).1 := hfaultless.perform (.addShape shape)
    rw [List.map_cons, run_cons]
    show Repainted e ((e.addShape shape).1.run (shapes.map .addShape)).1
    by_cases hcomplete : shape.geometry.isComplete = true
    · have hpush : e.store.push shape = some ⟨e.store.shapes ++ [shape.clamped]⟩ := if_pos hcomplete
      have hfirst : Repainted e (e.addShape shape).1 := by
        rw [addShape, hpush]
        exact repainted_afterListChange hfaultless rfl rfl
      exact hfirst.trans (ih hperform (.inr hfirst.again))
    · have hpush : e.store.push shape = none := if_neg hcomplete
      have hadd : (e.addShape shape).1 = e.note .shapeRefused := by rw [addShape, hpush]
      have haccepted : accepted (shape :: shapes) = accepted shapes := by
        simp [accepted, hcomplete]
      rw [haccepted] at h
      rw [hadd] at hperform ⊢
      exact (ih hperform (h.imp_right fun hsame => hsame.note.again)).of_note

theorem repainted_reset (h : Faultless e) (shapes : List (Shape Float)) :
    Repainted e (e.reset shapes) :=
  repainted_of_paints h (paintsBackground_reset e shapes) (paintsForeground_reset e shapes)

theorem repainted_addShapes (h : Faultless e) (shapes : List (Shape Float)) :
    Repainted e (e.addShapes shapes).1 :=
  repainted_afterListChange h rfl rfl

/-! ### The ways to put shapes in -/

/-- Shapes that are put in together and shapes that are put in one by one leave editors that cannot
be told apart, and are answered by the same places. -/
structure LoadsAlike (e : Editor) (shapes : List (Shape Float)) : Prop where
  indistinct : Indistinct (e.addShapes shapes).1 (e.run (shapes.map .addShape)).1
  replies : ∃ places : List (Option Nat), (e.run (shapes.map .addShape)).2 = places.map .place ∧
    (e.addShapes shapes).2 = places.filterMap id

theorem loadsAlike_of (h : e.Anchored) (hfaultless : Faultless e) {shapes : List (Shape Float)}
    (hscene : (e.addShapes shapes).1.toScene = e.toScene.loaded (accepted shapes))
    (hrun : Repainted e (e.run (shapes.map .addShape)).1) : LoadsAlike e shapes := by
  obtain ⟨hone, hreplies⟩ := outcome_run_addShape shapes h
  refine ⟨(repainted_addShapes hfaultless shapes).indistinct hrun (hscene.trans hone.symm), ?_⟩
  refine ⟨places e.store.size shapes, hreplies, ?_⟩
  exact congrArg Prod.snd (outcome_addShapes_extended e shapes)

/-- An editor that has just been started is in line with every list that is put in. -/
theorem toScene_loaded_start (background foreground : Surface Float) (theme : Theme)
    (ids : IdSupply) (shapes : List (Shape Float)) :
    let e := start background foreground theme ids
    (e.init shapes).toScene = e.toScene.loaded (accepted shapes) ∧
      (e.addShapes shapes).1.toScene = e.toScene.loaded (accepted shapes) := by
  intro e
  have hanchored : e.Anchored := anchored_run background foreground theme ids []
  have hinit : (e.init shapes).toScene = (e.extended (accepted shapes)).rested := by
    rw [init, toScene_note, toScene_reset, Store.pushAll_eq]
    rfl
  have hadd : (e.addShapes shapes).1.toScene = (e.extended (accepted shapes)).settled :=
    congrArg Prod.fst (outcome_addShapes_extended e shapes)
  rw [hinit, hadd]
  by_cases hne : accepted shapes = []
  · rw [hne]
    exact ⟨rfl, rfl⟩
  · rw [Scene.settled_extended hanchored hne, Scene.loaded_of_ne_nil hne,
      Scene.rested_of_not_isEmpty (Scene.not_isEmpty_extended hne)]
    exact ⟨rfl, rfl⟩

/-- **The ways to put shapes in agree.** On surfaces that never fail, shapes of which at least one
is accepted may be put in together or one by one, whatever the editor has been through: the editors
cannot be told apart, and the places of the accepted shapes are the same. An editor that has just
been started on blank surfaces may as well be given its first shapes, and then even if all are
refused, or there are none. -/
theorem ways_to_load_agree (background foreground : Surface Float) (theme : Theme)
    (ids : IdSupply) (hback : background.IsFaultless) (hfore : foreground.IsFaultless) :
    (∀ (history : List Request) (shapes : List (Shape Float)),
      (∃ shape ∈ shapes, shape.geometry.isComplete = true) →
      LoadsAlike ((start background foreground theme ids).run history).1 shapes) ∧
    (background.isBlank = true → foreground.isBlank = true → ∀ shapes : List (Shape Float),
      Indistinct ((start background foreground theme ids).init shapes)
        ((start background foreground theme ids).addShapes shapes).1 ∧
      LoadsAlike (start background foreground theme ids) shapes) := by
  have hstart : Faultless (start background foreground theme ids) := ⟨hback, hfore⟩
  refine ⟨fun history shapes hshapes => ?_, fun hbackBlank hforeBlank shapes => ?_⟩
  · have hanchored := anchored_run background foreground theme ids history
    have hfaultless := hstart.run history
    have hne := Store.accepted_ne_nil_iff.2 hshapes
    refine loadsAlike_of hanchored hfaultless ?_
      (repainted_run_addShape shapes hfaultless (.inl hne))
    have hadd := congrArg Prod.fst (outcome_addShapes_extended
      ((start background foreground theme ids).run history).1 shapes)
    exact hadd.trans (Scene.settled_extended hanchored hne)
  · have hanchored : (start background foreground theme ids).Anchored :=
      anchored_run background foreground theme ids []
    obtain ⟨hinit, hadd⟩ := toScene_loaded_start background foreground theme ids shapes
    -- there is nothing to show yet, and blank surfaces show nothing
    have hblank : Repainted (start background foreground theme ids)
        (start background foreground theme ids) :=
      ⟨rfl, rfl, Surface.primitives_of_isBlank hbackBlank,
        Surface.primitives_of_isBlank hforeBlank, hstart⟩
    constructor
    · have hreset := (repainted_reset hstart shapes).note (n := .initialized)
      exact hreset.indistinct (repainted_addShapes hstart shapes) (hinit.trans hadd.symm)
    · exact loadsAlike_of hanchored hstart hadd
        (repainted_run_addShape shapes hstart (.inr hblank))

/-- Two shapes are put in around an incomplete one while a shape is edited, and into an editor that
has just been started. -/
theorem ways_to_load_agree_editing :
    let shape : Shape Float := { id := .nil, geometry := .rectangle ⟨0, 0⟩ ⟨0.5, 0.5⟩ }
    let incomplete : Shape Float := { id := .nil, geometry := .polygon [⟨0, 0⟩, ⟨1, 1⟩] }
    let surface : Surface Float := { viewport := ⟨100, 100⟩ }
    let history : List Request := [.addShape shape, .setMode (.edit (.index 0))]
    let shapes := [shape, incomplete, shape]
    let e := start surface surface {} { source := fun _ => .nil }
    surface.IsFaultless ∧ surface.isBlank = true ∧ (e.run history).1.mode = .edit ∧
      LoadsAlike (e.run history).1 shapes ∧ Indistinct (e.init shapes) (e.addShapes shapes).1 ∧
      LoadsAlike e shapes := by
  intro shape incomplete surface history shapes e
  have hsurface : surface.IsFaultless := fun _ _ => rfl
  have hmode : (e.run history).1.mode = .edit := by decide +kernel
  obtain ⟨hrun, hfresh⟩ :=
    ways_to_load_agree surface surface {} { source := fun _ => .nil } hsurface hsurface
  have hcomplete : ∃ shape ∈ shapes, shape.geometry.isComplete = true :=
    ⟨shape, List.mem_cons_self, rfl⟩
  exact ⟨hsurface, rfl, hmode, hrun history shapes hcomplete, hfresh rfl rfl shapes⟩

end Editor

end ShapeOverlay
