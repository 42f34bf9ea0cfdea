import Mathlib.Data.List.Induction
import ShapeOverlay.Proofs.Scalar.Binary64
import ShapeOverlay.Proofs.Session.Editing

/-! # Clicks that are swallowed

A `Recording` is an editing session beside the inputs that it was fed and their outcomes, whatever
geometry each input found. What has happened is said of such a past by `Since`: something came about,
and nothing later ended it.

* The drag under way has changed the geometry (`HasChanged`).
* A drag that had changed the geometry was released, and the click that trails it is still to come
  (`AwaitsClick`).
* The pointer was pressed instead, and no drag was released since (`MissesClick`).

The session keeps two flags. The one says the first, and the other the second or the third, as a
press does not clear it (`Recording.Sound`, `sound_run`). So a click beside the shape is without
effect in the third case too, where it trails no drag (`swallowed_clicks`). -/

namespace ShapeOverlay

/-! ### The past -/

/-- Something came about after what was before it, and all that came later lets it last. -/
def Since {β : Type} (begins : List β → β → Prop) (lasts : β → Prop) (past : List β) : Prop :=
  ∃ before x after, past = before ++ x :: after ∧ begins before x ∧ ∀ y ∈ after, lasts y

section Since
variable {β : Type} {begins : List β → β → Prop} {lasts : β → Prop} {past : List β} {y : β}

theorem not_since_nil : ¬ Since begins lasts [] := by
  rintro ⟨before, x, after, hpast, -⟩
  simp at hpast

theorem since_concat :
    Since begins lasts (past ++ [y]) ↔ begins past y ∨ Since begins lasts past ∧ lasts y := by
  constructor
  · rintro ⟨before, x, after, hpast, hbegins, hlasts⟩
    rcases List.eq_nil_or_concat' after with rfl | ⟨after, z, rfl⟩
    · obtain ⟨rfl, hx⟩ := List.append_inj' hpast rfl
      cases hx
      exact Or.inl hbegins
    · have hsplit : past ++ [y] = (before ++ x :: after) ++ [z] := by simpa using hpast
      obtain ⟨rfl, hz⟩ := List.append_inj' hsplit rfl
      cases hz
      exact Or.inr ⟨⟨before, x, after, rfl, hbegins, fun y hy => hlasts y (by simp [hy])⟩,
        hlasts y (by simp)⟩
  · rintro (hbegins | ⟨⟨before, x, after, rfl, hbegins, hlasts⟩, hy⟩)
    · exact ⟨past, y, [], rfl, hbegins, nofun⟩
    · refine ⟨before, x, after ++ [y], by simp, hbegins, fun z hz => ?_⟩
      rcases List.mem_append.mp hz with hz | hz
      · exact hlasts z hz
      · rw [List.mem_singleton.mp hz]
        exact hy

end Since

variable {α : Type}

/-- A part of the shape was grabbed. -/
@[simp] def EditingStep.isGrabbed : EditingStep → Bool
  | grabbed _ => true
  | ignored | changed | released | finished => false

namespace Editing

/-! ### Inputs -/

/-- What an editing session is fed: an event of the pointer at a relative point of a surface of some
size, with the geometry of the shape and how far off its handles they can be hit. -/
inductive Input (α : Type) where
  | down (g : Geometry α) (p : Point α) (v : Viewport α) (slop : α)
  | move (g : Geometry α) (p : Point α) (v : Viewport α)
  | up
  | click (g : Geometry α) (p : Point α) (v : Viewport α) (slop : α)

/-- The input is a press. -/
@[simp] def Input.isDown : Input α → Bool
  | down _ _ _ _ => true
  | move _ _ _ | up | click _ _ _ _ => false

/-- The input is a click. -/
@[simp] def Input.isClick : Input α → Bool
  | click _ _ _ _ => true
  | down _ _ _ _ | move _ _ _ | up => false

/-- The outcome of an input and the session after it. -/
def feed [Scalar α] (t : Editing α) : Input α → EditingStep × Editing α
  | .down g p v slop => t.pointerDown g p v slop
  | .move g p v => ((t.pointerMove g p v).1, (t.pointerMove g p v).2.2)
  | .up => t.pointerUp
  | .click g p v slop => t.click g p v slop

/-- **What an input makes of an editing session**, as far as drags and clicks are concerned. A press
grabs a part of the shape or misses it, a move changes the geometry or keeps it, and a release ends
a drag if there is one. A click is swallowed, hits a part of the shape or finishes the session. -/
inductive Fed [Scalar α] (t : Editing α) : Input α → EditingStep → Editing α → Prop
  | missed (g : Geometry α) (p : Point α) (v : Viewport α) (slop : α) :
    Fed t (.down g p v slop) .ignored t
  | grabbed (g : Geometry α) (p : Point α) (v : Viewport α) (slop : α) (part : EditPart)
    (drag : Drag α) (blind : Point α) :
    Fed t (.down g p v slop) (.grabbed part) { t with drag := some drag, moved := false, blind }
  | kept (g : Geometry α) (p : Point α) (v : Viewport α) (blind : Point α) :
    Fed t (.move g p v) .ignored { t with blind }
  | changed (g : Geometry α) (p : Point α) (v : Viewport α) (blind : Point α) :
    Fed t (.move g p v) .changed { t with blind, moved := true }
  | idle (drag : t.drag = none) : Fed t .up .ignored t
  | released (drag : t.drag ≠ none) :
    Fed t .up .released { t with drag := none, moved := false, swallowClick := t.moved }
  | swallowed (g : Geometry α) (p : Point α) (v : Viewport α) (slop : α)
    (swallowClick : t.swallowClick = true) :
    Fed t (.click g p v slop) .ignored { t with swallowClick := false }
  | hit (g : Geometry α) (p : Point α) (v : Viewport α) (slop : α)
    (swallowClick : t.swallowClick = false) (part : g.hitPart? p v slop ≠ none) :
    Fed t (.click g p v slop) .ignored t
  | finished (g : Geometry α) (p : Point α) (v : Viewport α) (slop : α)
    (swallowClick : t.swallowClick = false) (part : g.hitPart? p v slop = none) :
    Fed t (.click g p v slop) .finished t

theorem fed [Scalar α] (t : Editing α) (input : Input α) :
    t.Fed input (t.feed input).1 (t.feed input).2 := by
  cases input with
  | down g p v slop =>
    simp only [feed, pointerDown]
    split
    · exact .missed g p v slop
    · next part _ =>
      split
      · exact .missed g p v slop
      · next drag _ => exact .grabbed g p v slop part drag .origin
  | move g p v =>
    simp only [feed, pointerMove]
    split
    · exact .kept g p v t.blind
    · next drag _ =>
      split_ifs
      · exact .kept g p v _
      · exact .changed g p v _
  | up =>
    simp only [feed, pointerUp]
    split
    · next hdrag => exact .idle hdrag
    · next drag hdrag => exact .released (by simp [hdrag])
  | click g p v slop =>
    simp only [feed, click]
    split_ifs with hswallow
    · exact .swallowed g p v slop hswallow
    · have hstep := Bool.eq_false_iff.mpr hswallow
      split
      · next part hpart => exact .hit g p v slop hstep (by simp [hpart])
      · next hpart => exact .finished g p v slop hstep hpart

theorem feed_click_of_miss [Scalar α] (t : Editing α) {g : Geometry α} {p : Point α}
    {v : Viewport α} {slop : α} (hmiss : g.hitPart? p v slop = none) :
    (t.feed (.click g p v slop)).1 = if t.swallowClick then .ignored else .finished := by
  simp only [feed, click, hmiss]
  split_ifs <;> rfl

/-- An editing session beside its past: the inputs and their outcomes, in order. -/
structure Recording (α : Type) where
  session : Editing α
  past : List (Input α × EditingStep) := []

namespace Recording

/-- The drag under way has changed the geometry. -/
def HasChanged : List (Input α × EditingStep) → Prop :=
  Since (fun _ x => x.2 = .changed) fun y => y.2 ≠ .released ∧ y.2.isGrabbed = false

/-- A drag that had changed the geometry was released, and there was no press and no click since. -/
def AwaitsClick : List (Input α × EditingStep) → Prop :=
  Since (fun before x => x.2 = .released ∧ HasChanged before) fun y =>
    y.1.isDown = false ∧ y.1.isClick = false

/-- There was a press instead of the click that would have trailed a drag; no drag was released and
there was no click since. -/
def MissesClick : List (Input α × EditingStep) → Prop :=
  Since (fun before x => x.1.isDown = true ∧ AwaitsClick before) fun y =>
    y.2 ≠ .released ∧ y.1.isClick = false

variable [Scalar α]

/-- The recording after an input. -/
def feed (r : Recording α) (input : Input α) : Recording α :=
  { session := (r.session.feed input).2, past := r.past ++ [(input, (r.session.feed input).1)] }

/-- The recording after a sequence of inputs. -/
def run (target : Identifier) (inputs : List (Input α)) : Recording α :=
  inputs.foldl feed { session := .start target }

variable {r : Recording α} {past : List (Input α × EditingStep)} {target : Identifier}
variable {inputs : List (Input α)} {input : Input α} {step : EditingStep}

theorem run_concat : run target (inputs ++ [input]) = (run target inputs).feed input :=
  List.foldl_append

/-! ### One input -/

/-- **The flags of a session say what has happened.** -/
structure Sound (r : Recording α) : Prop where
  moved : r.session.moved = true ↔ HasChanged r.past
  swallowClick : r.session.swallowClick = true ↔ AwaitsClick r.past ∨ MissesClick r.past
  drag : AwaitsClick r.past → r.session.drag = none

omit [Scalar α] in
@[simp] theorem hasChanged_concat : HasChanged (past ++ [(input, step)]) ↔
    step = .changed ∨ HasChanged past ∧ step ≠ .released ∧ step.isGrabbed = false :=
  since_concat

omit [Scalar α] in
@[simp] theorem awaitsClick_concat : AwaitsClick (past ++ [(input, step)]) ↔
    (step = .released ∧ HasChanged past) ∨
      AwaitsClick past ∧ input.isDown = false ∧ input.isClick = false :=
  since_concat

omit [Scalar α] in
@[simp] theorem missesClick_concat : MissesClick (past ++ [(input, step)]) ↔
    (input.isDown = true ∧ AwaitsClick past) ∨
      MissesClick past ∧ step ≠ .released ∧ input.isClick = false :=
  since_concat

theorem Sound.fed (h : r.Sound) {t : Editing α} (hfed : r.session.Fed input step t) :
    Sound { session := t, past := r.past ++ [(input, step)] } := by
  have hmoved := h.moved
  have hswallow := h.swallowClick
  have hdrag := h.drag
  cases hfed with
  | missed g p v slop => exact ⟨by simpa using hmoved, by simpa using hswallow, by simp⟩
  | grabbed g p v slop part drag blind =>
    exact ⟨by simp, by simpa using hswallow, by simp⟩
  | kept g p v blind =>
    exact ⟨by simpa using hmoved, by simpa using hswallow, by simpa using hdrag⟩
  | changed g p v blind => exact ⟨by simp, by simpa using hswallow, by simpa using hdrag⟩
  | idle hidle => exact ⟨by simpa using hmoved, by simpa using hswallow, fun _ => hidle⟩
  | released hdragging =>
    -- No other drag has been released since the last press.
    have hfirst : ¬ AwaitsClick r.past := fun hawaits => hdragging (hdrag hawaits)
    exact ⟨by simp, by simpa [hfirst] using hmoved, fun _ => rfl⟩
  | swallowed g p v slop hswallowed => exact ⟨by simpa using hmoved, by simp, by simp⟩
  | hit g p v slop hclear part | finished g p v slop hclear part =>
    exact ⟨by simpa using hmoved, by simp [hclear], by simp⟩

/-- **One input keeps the flags true to the past.** -/
theorem Sound.feed (h : r.Sound) (input : Input α) : (r.feed input).Sound :=
  h.fed (r.session.fed input)

theorem sound_run (target : Identifier) (inputs : List (Input α)) : (run target inputs).Sound := by
  induction inputs using List.reverseRecOn with
  | nil =>
    exact ⟨iff_of_false Bool.false_ne_true not_since_nil,
      iff_of_false Bool.false_ne_true (not_or_intro not_since_nil not_since_nil), fun _ => rfl⟩
  | append_singleton inputs input ih =>
    rw [run_concat]
    exact ih.feed input

/-- **Which clicks are swallowed.** Whatever an editing session is fed, on any geometries, a click
that hits no part of the shape is without effect if and only if it trails a drag that had changed
the geometry, with no press and no click since its release, or a press came instead of such a click
and since then no drag was released and there was no click. In every other case it finishes the
session. -/
theorem swallowed_clicks (target : Identifier) (inputs : List (Input α)) (g : Geometry α)
    (p : Point α) (v : Viewport α) (slop : α) (hmiss : g.hitPart? p v slop = none) :
    let r := run target inputs
    ((r.session.feed (.click g p v slop)).1 = .ignored ↔
      AwaitsClick r.past ∨ MissesClick r.past) ∧
    ((r.session.feed (.click g p v slop)).1 = .finished ↔
      ¬ (AwaitsClick r.past ∨ MissesClick r.past)) := by
  intro r
  have hflag : r.session.swallowClick = true ↔ AwaitsClick r.past ∨ MissesClick r.past :=
    (sound_run target inputs).swallowClick
  rw [← hflag, r.session.feed_click_of_miss hmiss]
  cases r.session.swallowClick <;> simp

/-- A rectangle. -/
def framed : Geometry Float := .rectangle ⟨0.25, 0.25⟩ ⟨0.5, 0.5⟩

/-- The rectangle is dragged away by its middle. -/
def draggedAway : List (Input Float) :=
  [.down framed ⟨0.375, 0.375⟩ ⟨100, 100⟩ 8, .move framed ⟨0.5, 0.5⟩ ⟨100, 100⟩, .up]

/-- The click that trails the drag is without effect. -/
theorem swallowed_clicks_draggedAway : framed.hitPart? ⟨0.875, 0.125⟩ ⟨100, 100⟩ 8 = none ∧
    ((run .nil draggedAway).session.feed (.click framed ⟨0.875, 0.125⟩ ⟨100, 100⟩ 8)).1 =
      .ignored := by
  have hmiss : framed.hitPart? ⟨0.875, 0.125⟩ ⟨100, 100⟩ 8 = none := by decide +kernel
  obtain ⟨hignored, -⟩ := swallowed_clicks .nil draggedAway framed _ _ _ hmiss
  have hswallow : (run .nil draggedAway).session.swallowClick = true := by decide +kernel
  exact ⟨hmiss, hignored.mpr ((sound_run .nil draggedAway).swallowClick.mp hswallow)⟩

/-- The click after a press beside the rectangle is without effect too, though it trails no drag. -/
theorem click_after_missed_press : ¬ ∀ (target : Identifier) (inputs : List (Input Float))
    (g : Geometry Float) (p : Point Float) (v : Viewport Float) (slop : Float),
    g.hitPart? p v slop = none →
      (((run target inputs).session.feed (.click g p v slop)).1 = .ignored ↔
        AwaitsClick (run target inputs).past) := by
  intro h
  let press : Input Float := .down framed ⟨0.875, 0.125⟩ ⟨100, 100⟩ 8
  have hclick := h .nil (draggedAway ++ [press] ++ [.up]) framed ⟨0.875, 0.125⟩ ⟨100, 100⟩ 8
    (by decide +kernel)
  have hawaits := hclick.mp (by decide +kernel)
  rw [run_concat] at hawaits
  rcases awaitsClick_concat.mp hawaits with ⟨hreleased, -⟩ | ⟨hawaits, -⟩
  · exact absurd hreleased (by decide +kernel)
  · rw [run_concat] at hawaits
    rcases awaitsClick_concat.mp hawaits with ⟨hreleased, -⟩ | ⟨-, hdown, -⟩
    · exact absurd hreleased (by decide +kernel)
    · cases hdown

end Recording

end Editing

end ShapeOverlay
