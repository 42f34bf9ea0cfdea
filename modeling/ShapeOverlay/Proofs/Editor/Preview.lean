import Mathlib.Logic.Relation
import ShapeOverlay.Proofs.Editor.Coherence
import ShapeOverlay.Proofs.Editor.Gesture
import ShapeOverlay.Proofs.Session.Refusal

/-! # The foreground while a shape is drawn

An editor paints its foreground anew when a drawing session asks for a preview, and not when an
input is ignored. So the foreground shows the draft as it was at the last preview
(`PreviewCoherent.perform`), and from that the present draft differs by what refused finishes have
made of it since (`Drawing.Spoilt`). -/

namespace ShapeOverlay

namespace Drawing

variable {d d' : Drawing Float} {step : DrawingStep Float} {input : Input Float}

/-- Refused finishes, none or several, have made one draft of another. -/
def Spoilt : Drawing Float → Drawing Float → Prop :=
  Relation.ReflTransGen fun before after => ∃ input, before.Spoils input after

theorem spoilt_of_feed (h : d.feed input = (.ignored, d')) : d.Spoilt d' := by
  by_cases hsame : d' = d
  · rw [hsame]
    exact .refl
  · exact .single ⟨input, feed_eq_ignored_iff.mp ⟨h, hsame⟩⟩

/-- An event that a drawing does not look at is ignored, and any other is an input. -/
theorem respond_cases (d : Drawing Float) (v : Viewport Float) (id : Identifier) (event : Event) :
    d.respond v id event = (.ignored, d) ∨ ∃ input, d.respond v id event = d.feed input := by
  cases event with
  | down pixel button =>
    cases button with
    | primary => exact Or.inr ⟨.down _, rfl⟩
    | middle | secondary => exact Or.inl rfl
  | move pixel => exact Or.inr ⟨.move _ _, rfl⟩
  | up pixel button =>
    cases button with
    | primary => exact Or.inr ⟨.up _ _ _, rfl⟩
    | middle | secondary => exact Or.inl rfl
  | click pixel => exact Or.inl rfl
  | doubleClick pixel => exact Or.inr ⟨.doubleClick _, rfl⟩

theorem spoilt_respond {v : Viewport Float} {id : Identifier} {event : Event}
    (h : d.respond v id event = (.ignored, d')) : d.Spoilt d' := by
  rcases d.respond_cases v id event with hignored | ⟨input, hfeed⟩
  · rw [hignored] at h
    cases h
    exact .refl
  · exact spoilt_of_feed (hfeed ▸ h)

/-- A shape that is finished can be put into a list. -/
theorem isComplete_of_finish {id : Identifier} {shape : Shape Float}
    (h : d.finish id = .commit shape) : shape.geometry.isComplete = true := by
  obtain ⟨hcommittable, hdraft, -⟩ := finish_eq_commit h
  have hparts := drafted hdraft
  generalize shape.geometry = g at hparts
  cases hparts with
  | rectangle _ _ | circle _ _ _ => rfl
  | polygon hkind hpoints =>
    rwa [isCommittable_polygon hkind, hpoints] at hcommittable

theorem isComplete_respond {v : Viewport Float} {id : Identifier} {event : Event}
    {shape : Shape Float} (h : (d.respond v id event).1 = .commit shape) :
    shape.geometry.isComplete = true := by
  rcases d.respond_cases v id event with hignored | ⟨input, hfeed⟩
  · rw [hignored] at h
    cases h
  · rw [hfeed] at h
    obtain ⟨⟨id, hfinishing⟩, -⟩ := feed_eq_commit h
    rw [hfinishing.feed_eq] at h
    exact isComplete_of_finish h

end Drawing

namespace Editor

variable {e e' : Editor}

/-- The foreground never fails, and while a shape is drawn it shows a draft that refused finishes
have made the present one. -/
structure PreviewCoherent (e : Editor) : Prop where
  faultless : e.foreground.IsFaultless
  primitives : ∀ d, e.session = .drawing d → ∃ shown : Drawing Float, shown.Spoilt d ∧
    e.foreground.primitives =
      { e.toScene with session := .drawing shown }.foregroundPicture e.foreground.viewport

/-- Painting a foreground that never fails makes it show the draft. -/
theorem PaintsForeground.previewCoherent (h : PaintsForeground e e')
    (hf : e.foreground.IsFaultless) : PreviewCoherent e' := by
  constructor
  · rw [h]
    exact hf.repaint _
  · intro d hd
    refine ⟨d, .refl, ?_⟩
    rw [h, Surface.primitives_repaint hf, Surface.viewport_repaint, ← hd]

theorem PreviewCoherent.of_eq (h : PreviewCoherent e) (hs : e'.toScene = e.toScene)
    (hf : e'.foreground = e.foreground) : PreviewCoherent e' := by
  refine ⟨hf ▸ h.faultless, ?_⟩
  rw [hs, hf]
  exact h.primitives

/-! ### Operations -/

theorem PreviewCoherent.addShape (h : PreviewCoherent e) (shape : Shape Float) :
    PreviewCoherent (e.addShape shape).1 := by
  unfold Editor.addShape
  split
  · exact (paintsForeground_afterListChange rfl).previewCoherent h.faultless
  · exact h.of_eq rfl rfl

theorem PreviewCoherent.delete (h : PreviewCoherent e) (selector : Selector) :
    PreviewCoherent (e.delete selector).1 := by
  refine (paintsForeground_afterListChange ?_).previewCoherent h.faultless
  split_ifs <;> rfl

theorem PreviewCoherent.setMode (h : PreviewCoherent e) (mode : ModeRequest) :
    PreviewCoherent (e.setMode mode).1 := by
  cases mode with
  | detect => exact (paintsForeground_switchTo e _).previewCoherent h.faultless
  | draw options => exact (paintsForeground_switchTo e _).previewCoherent h.faultless
  | edit target =>
    unfold Editor.setMode
    dsimp only
    split
    · exact (paintsForeground_switchTo e _).previewCoherent h.faultless
    · exact h.of_eq rfl rfl

theorem PreviewCoherent.highlight (h : PreviewCoherent e) (i : Nat) :
    PreviewCoherent (e.highlight i).1 := by
  unfold Editor.highlight
  split
  · exact (paintsForeground_paintForeground _).previewCoherent h.faultless
  · exact h.of_eq rfl rfl

theorem PreviewCoherent.redraw (h : PreviewCoherent e) (keep : Bool) :
    PreviewCoherent (e.redraw keep) := by
  have hf : e.paintBackground.foreground.IsFaultless := by simpa using h.faultless
  unfold Editor.redraw
  dsimp only
  split_ifs
  · exact (paintsForeground_paintForeground _).previewCoherent hf
  · exact (paintsForeground_switchTo _ _).previewCoherent hf

theorem PreviewCoherent.resize (h : PreviewCoherent e) (v : Viewport Float) :
    PreviewCoherent (e.resize v) := by
  refine (paintsForeground_paintForeground _).previewCoherent ?_
  simpa [resizeForeground] using h.faultless.resize v

/-! ### Events -/

/-- **What an event leaves on the foreground while a shape is drawn.** If it is ignored, nothing is
painted, and the draft may have been spoiled. -/
theorem PreviewCoherent.drawEvent (h : PreviewCoherent e) {d : Drawing Float}
    (hs : e.session = .drawing d) (event : Event) :
    PreviewCoherent
      (e.drawEvent (d.respond e.foreground.viewport e.ids.next event)).1 := by
  cases hx : d.respond e.foreground.viewport e.ids.next event with
  | mk step d' =>
    cases step with
    | ignored =>
      obtain ⟨shown, hshown, hprimitives⟩ := h.primitives d hs
      refine ⟨h.faultless, fun _ hd => ?_⟩
      cases hd
      exact ⟨shown, hshown.trans (Drawing.spoilt_respond hx), hprimitives⟩
    | preview => exact (paintsForeground_paintForeground _).previewCoherent h.faultless
    | commit shape =>
      have hcomplete := Drawing.isComplete_respond (congrArg Prod.fst hx)
      have hpush : e.store.push shape = some ⟨e.store.shapes ++ [shape.clamped]⟩ :=
        Store.push_eq_some_iff.mpr ⟨hcomplete, rfl⟩
      unfold Editor.drawEvent commit
      dsimp only
      rw [hpush]
      exact (paintsForeground_switchTo _ _).previewCoherent (by simpa using h.faultless)

theorem PreviewCoherent.handle (h : PreviewCoherent e) (event : Event) :
    PreviewCoherent (e.handle event).1 := by
  by_cases hmode : e.mode = .draw
  · obtain ⟨d, hs⟩ := drawing_of_mode hmode
    rw [handle_drawing hs]
    exact h.drawEvent hs event
  · have hfaults : (e.handle event).1.foreground.faults = e.foreground.faults :=
      faults_perform e (.event event)
    refine ⟨fun n call => hfaults ▸ h.faultless n call, fun d hd => absurd ?_ hmode⟩
    exact (goesOn_handle e event).mode (congrArg Session.mode hd)

/-! ### Runs -/

/-- **Every request leaves on the foreground a draft that was the present one when it was painted.** -/
theorem PreviewCoherent.perform (h : PreviewCoherent e) : ∀ request,
    PreviewCoherent (e.perform request).1
  | .init shapes | .reinit shapes =>
    ((paintsForeground_reset e shapes).previewCoherent h.faultless).of_eq rfl rfl
  | .addShape shape => h.addShape shape
  | .addShapes _ | .setStatus _ _ | .setAttribute _ _ _ =>
    (paintsForeground_afterListChange rfl).previewCoherent h.faultless
  | .redraw keep => h.redraw keep
  | .delete selector => h.delete selector
  | .setMode mode => h.setMode mode
  | .highlight i => h.highlight i
  | .unhighlight => (paintsForeground_paintForeground _).previewCoherent h.faultless
  | .resize v => h.resize v
  | .event event => h.handle event

/-- **Ignored inputs and what is shown.** An input is ignored and leaves another session exactly if
it is a finish that spoils the draft, and a spoiled draft is another one. After every run that begins
with a foreground which never fails, the foreground shows the highlight and the draft that is drawn,
unless refused finishes have spoiled the draft since it was painted. -/
theorem foreground_shows_unspoiled_draft (background foreground : Surface Float) (theme : Theme)
    (ids : IdSupply) (requests : List Request) (hfaultless : foreground.IsFaultless) :
    (∀ (d d' : Drawing Float) (input : Drawing.Input Float),
      d.feed input = (.ignored, d') ∧ d' ≠ d ↔ d.Spoils input d') ∧
    (∀ (d d' : Drawing Float) (input : Drawing.Input Float), d.Spoils input d' →
      d'.draft? ≠ d.draft?) ∧
    let e := ((start background foreground theme ids).run requests).1
    ∀ d, e.session = .drawing d → ∃ shown : Drawing Float, shown.Spoilt d ∧
      e.foreground.primitives =
        { e.toScene with session := .drawing shown }.foregroundPicture e.foreground.viewport := by
  have hstart : PreviewCoherent (start background foreground theme ids) :=
    ⟨hfaultless, nofun⟩
  have hrun : PreviewCoherent ((start background foreground theme ids).run requests).1 :=
    run_keeps (fun _ r h => h.perform r) hstart requests
  exact ⟨fun _ _ _ => Drawing.feed_eq_ignored_iff, fun _ _ _ h => h.draft?_ne, hrun.primitives⟩

/-- A rectangle is dragged out and released flat. -/
def releasedFlat : List Request :=
  [.setMode (.draw { kind := .rectangle }), .event (.down ⟨25, 25⟩ .primary),
    .event (.move ⟨50, 50⟩), .event (.up ⟨25, 75⟩ .primary)]

/-- The rectangle is still drawn after it was released flat. -/
theorem foreground_shows_releasedFlat : ({ viewport := ⟨100, 100⟩ } : Surface Float).IsFaultless ∧
    ∃ d shown : Drawing Float, shown.Spoilt d ∧
      let e := ((start { viewport := ⟨100, 100⟩ } { viewport := ⟨100, 100⟩ } {}
        { source := fun _ => .nil }).run releasedFlat).1
      e.session = .drawing d ∧ e.foreground.primitives =
        { e.toScene with session := .drawing shown }.foregroundPicture e.foreground.viewport := by
  have hmode : ((start { viewport := ⟨100, 100⟩ } { viewport := ⟨100, 100⟩ } {}
      { source := fun _ => .nil }).run releasedFlat).1.mode = .draw := by decide +kernel
  obtain ⟨d, hd⟩ := drawing_of_mode hmode
  obtain ⟨-, -, hshows⟩ := foreground_shows_unspoiled_draft { viewport := ⟨100, 100⟩ }
    { viewport := ⟨100, 100⟩ } {} { source := fun _ => .nil } releasedFlat fun _ _ => rfl
  obtain ⟨shown, hspoilt, hprimitives⟩ := hshows d hd
  exact ⟨fun _ _ => rfl, d, shown, hspoilt, hd, hprimitives⟩

end Editor

end ShapeOverlay
