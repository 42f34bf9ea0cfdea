import ShapeOverlay.Proofs.Editor.Painting

/-! # The surfaces show the scene

Whatever is asked of an editor, a background that never fails shows the shapes as they are
(`background_shows_shapes`), and a foreground that never fails shows the highlights and the handles
as they are, unless a shape is being drawn (`foreground_shows_session`). What a drag without effect
leaves on the surfaces may differ from what would be painted now in the signs of zeros. -/

namespace ShapeOverlay.Editor

/-! ### The background -/

/-- The background never fails and shows what it has to. -/
structure BackgroundCoherent (e : Editor) : Prop where
  faultless : e.background.IsFaultless
  primitives : List.Forall₂ Primitive.Alike (e.backgroundPicture e.background.viewport)
    e.background.primitives

/-- Painting a background that never fails makes it show what it has to. -/
theorem PaintsBackground.coherent {e e' : Editor} (h : PaintsBackground e e')
    (hf : e.background.IsFaultless) : BackgroundCoherent e' := by
  constructor
  · rw [h]
    exact hf.repaint _
  · rw [h, Surface.primitives_repaint hf, Surface.viewport_repaint]
    exact List.forall₂_same.mpr fun p _ => .refl p

theorem BackgroundCoherent.perform {e : Editor} (h : BackgroundCoherent e) (request : Request) :
    BackgroundCoherent (e.perform request).1 := by
  cases painting_perform e request with
  | kept hb _ hs _ =>
    refine ⟨hb ▸ h.faultless, ?_⟩
    rw [hb]
    exact Primitive.forall₂_trans (hs.picture _) h.primitives
  | shown hb hs _ =>
    refine ⟨hb ▸ h.faultless, ?_⟩
    rw [hb, backgroundPicture_congr hs]
    exact h.primitives
  | painted hb _ => exact hb.coherent h.faultless
  | resized v _ hb _ =>
    refine hb.coherent ?_
    rw [background_resizeBackground]
    exact h.faultless.resize v

/-- The foreground never fails and shows what it has to unless a shape is being drawn. -/
structure ForegroundCoherent (e : Editor) : Prop where
  faultless : e.foreground.IsFaultless
  primitives : e.mode ≠ .draw → List.Forall₂ Primitive.Alike
    (e.foregroundPicture e.foreground.viewport) e.foreground.primitives

/-- Painting a foreground that never fails makes it show what it has to. -/
theorem PaintsForeground.coherent {e e' : Editor} (h : PaintsForeground e e')
    (hf : e.foreground.IsFaultless) : ForegroundCoherent e' := by
  constructor
  · rw [h]
    exact hf.repaint _
  · intro _
    rw [h, Surface.primitives_repaint hf, Surface.viewport_repaint]
    exact List.forall₂_same.mpr fun p _ => .refl p

theorem ForegroundCoherent.perform {e : Editor} (h : ForegroundCoherent e) (request : Request) :
    ForegroundCoherent (e.perform request).1 := by
  cases painting_perform e request with
  | kept _ hf _ hp =>
    refine ⟨hf ▸ h.faultless, fun hm => ?_⟩
    rcases hp with hdraw | ⟨hmode, hp⟩
    · exact absurd hdraw hm
    · rw [hf]
      exact Primitive.forall₂_trans (hp _) (h.primitives (hmode ▸ hm))
  | shown _ _ hf => exact hf.coherent h.faultless
  | painted _ hf => exact hf.coherent h.faultless
  | resized v _ _ hf =>
    refine hf.coherent ?_
    rw [foreground_resizeForeground]
    exact h.faultless.resize v

theorem ForegroundCoherent.run {e : Editor} (h : ForegroundCoherent e) (requests : List Request) :
    ForegroundCoherent (e.run requests).1 :=
  run_keeps (fun _ r h => h.perform r) h requests

theorem foregroundCoherent_run (background : Surface Float) {foreground : Surface Float}
    (theme : Theme) (ids : IdSupply) (requests : List Request)
    (hblank : foreground.isBlank = true) (hfaultless : foreground.IsFaultless) :
    ForegroundCoherent ((start background foreground theme ids).run requests).1 := by
  have hstart : ForegroundCoherent (start background foreground theme ids) := by
    refine ⟨hfaultless, fun _ => ?_⟩
    show List.Forall₂ Primitive.Alike [] foreground.primitives
    rw [Surface.primitives_of_isBlank hblank]
    exact .nil
  exact hstart.run requests

/-! ### What the foreground shows -/

/-- The outline of a shape that is highlighted. -/
def highlightOutline (theme : Theme) (v : Viewport Float) (s : Shape Float) : Primitive Float :=
  s.geometry.outline { color := theme.highlightColor, width := theme.highlightWidth } false v

/-- A highlight shows the outline of the shape in question unless that is hidden, and nothing if it
is or if there is none. -/
inductive ShowsHighlight (theme : Theme) (v : Viewport Float) (shape : Option (Shape Float)) :
    List (Primitive Float) → Prop where
  | outline {s : Shape Float} : shape = some s → s.status ≠ .hidden →
      ShowsHighlight theme v shape [highlightOutline theme v s]
  | nothing : (∀ s, shape = some s → s.status = .hidden) → ShowsHighlight theme v shape []

/-- The mover and the handles of the shape in question are shown unless that is a polygon without
vertices, and nothing if it is or if there is none. -/
inductive ShowsHandles (theme : Theme) (v : Viewport Float) (shape : Option (Shape Float)) :
    List (Primitive Float) → Prop where
  | overlay {s : Shape Float} {o : Overlay Float} : shape = some s →
      s.geometry.overlay? v = some o → ShowsHandles theme v shape
        (.fill o.mover theme.moverFill :: o.handles.flatMap (handlePicture theme))
  | nothing : (∀ s, shape = some s → s.geometry = .polygon []) → ShowsHandles theme v shape []

theorem showsHighlight (t : Scene) (shape : Option (Shape Float)) (v : Viewport Float) :
    ShowsHighlight t.theme v shape (t.highlightPicture shape v) := by
  cases shape with
  | none => exact .nothing fun s hs => by cases hs
  | some s =>
    by_cases hhidden : s.status = .hidden
    · have hpicture : t.highlightPicture (some s) v = [] := by
        simp [Scene.highlightPicture, Shape.highlight, Shape.pictureIn, Shape.isVisible, hhidden]
      rw [hpicture]
      exact .nothing fun _ hs => Option.some.inj hs ▸ hhidden
    · have hpicture : t.highlightPicture (some s) v = [highlightOutline t.theme v s] := by
        simp [Scene.highlightPicture, Shape.highlight, Shape.pictureIn, Shape.isVisible, hhidden,
          highlightOutline]
      rw [hpicture]
      exact .outline rfl hhidden

theorem showsHandles (theme : Theme) (shape : Option (Shape Float)) (v : Viewport Float) :
    ShowsHandles theme v shape
      ((shape.bind (·.geometry.overlay? v)).elim [] (·.picture theme)) := by
  cases hoverlay : shape.bind (·.geometry.overlay? v) with
  | some o =>
    obtain ⟨s, hs, ho⟩ := Option.bind_eq_some_iff.mp hoverlay
    exact .overlay hs ho
  | none =>
    refine .nothing fun s hs => ?_
    rw [hs, Option.bind_some] at hoverlay
    exact Geometry.overlay?_eq_none_iff.mp hoverlay

/-- The foreground shows what would be painted now on a blank surface of its size. That is the
first shape with the identity highlighted on request, and then the shape at the place that detection
has found, or the mover and the handles of the first shape with the identity that is edited, and
nothing else. -/
structure ShowsSession (e : Editor) : Prop where
  fresh : List.Forall₂ Primitive.Alike
    (({ viewport := e.foreground.viewport } : Surface Float).repaint
      e.foregroundPicture).1.primitives e.foreground.primitives
  parts : ∃ manual shown, (({ viewport := e.foreground.viewport } : Surface Float).repaint
      e.foregroundPicture).1.primitives = manual ++ shown ∧
    ShowsHighlight e.theme e.foreground.viewport
      (e.highlighted.bind fun id => e.store.shapes.find? (·.id == id)) manual ∧
    match e.session with
    | .idle => shown = []
    | .detection d =>
      ShowsHighlight e.theme e.foreground.viewport (d.selected.bind (e.store.shapes[·]?)) shown
    | .drawing _ => False
    | .editing t =>
      ShowsHandles e.theme e.foreground.viewport (e.store.shapes.find? (·.id == t.target)) shown

theorem ForegroundCoherent.showsSession {e : Editor} (h : ForegroundCoherent e)
    (hmode : e.mode ≠ .draw) : ShowsSession e := by
  constructor
  · rw [Surface.primitives_repaint_blank]
    exact h.primitives hmode
  · simp only [Surface.primitives_repaint_blank, ← Store.lookup_eq_find?]
    refine ⟨_, _, rfl, showsHighlight e.toScene _ _, ?_⟩
    split
    · next hs => simp only [Scene.sessionPicture, hs]
    · next d hs =>
      simp only [Scene.sessionPicture, hs]
      exact showsHighlight e.toScene _ _
    · next d hs => exact hmode (by rw [Scene.mode, hs]; rfl)
    · next t hs =>
      simp only [Scene.sessionPicture, hs]
      exact showsHandles _ _ _

/-- **The foreground shows the session after every run** that begins with a blank foreground which
never fails, unless it ends while a shape is being drawn, and whatever becomes of the background. -/
theorem foreground_shows_session (background foreground : Surface Float) (theme : Theme)
    (ids : IdSupply) (requests : List Request) (hblank : foreground.isBlank = true)
    (hfaultless : foreground.IsFaultless)
    (hmode : ((start background foreground theme ids).run requests).1.mode ≠ .draw) :
    ShowsSession ((start background foreground theme ids).run requests).1 :=
  (foregroundCoherent_run background theme ids requests hblank hfaultless).showsSession hmode

/-- A shape is put in and edited. -/
theorem foreground_shows_edited_shape :
    ({ viewport := ⟨100, 100⟩ } : Surface Float).isBlank = true ∧
      ({ viewport := ⟨100, 100⟩ } : Surface Float).IsFaultless ∧
      ((start { viewport := ⟨100, 100⟩ } { viewport := ⟨100, 100⟩ } {}
        { source := fun _ => .nil }).run
          [.addShape { id := .nil, geometry := .rectangle ⟨0, 0⟩ ⟨1, 1⟩ },
            .setMode (.edit (.index 0))]).1.mode = .edit ∧
      ShowsSession ((start { viewport := ⟨100, 100⟩ } { viewport := ⟨100, 100⟩ } {}
        { source := fun _ => .nil }).run
          [.addShape { id := .nil, geometry := .rectangle ⟨0, 0⟩ ⟨1, 1⟩ },
            .setMode (.edit (.index 0))]).1 := by
  have hmode : ((start { viewport := ⟨100, 100⟩ } { viewport := ⟨100, 100⟩ } {}
      { source := fun _ => .nil }).run
        [.addShape { id := .nil, geometry := .rectangle ⟨0, 0⟩ ⟨1, 1⟩ },
          .setMode (.edit (.index 0))]).1.mode = .edit := rfl
  refine ⟨rfl, fun _ _ => rfl, hmode, ?_⟩
  exact foreground_shows_session _ _ _ _ _ rfl (fun _ _ => rfl) (by rw [hmode]; decide)

end ShapeOverlay.Editor
