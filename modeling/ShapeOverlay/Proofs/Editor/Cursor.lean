import ShapeOverlay.Proofs.Editor.Selection

/-! # The cursor follows the session

The cursor is the crosshair while a shape is drawn and the default one in an idle editor, and over a
shape that detection has found it is the pointer (`Scene.CursorFits`). Detection that forgets what
it has found does not touch the cursor, and so it leaves a pointer over nothing behind
(`Scene.Stale`), until the pointer moves or a session is begun (`stale_perform_iff`). An event tells
the host of the cursor just when it has changed it (`Steered.told`). -/

namespace ShapeOverlay

/-! ### Scenes -/

/-- The action tells of the cursor. -/
def Action.isCursor : Action → Bool
  | .cursor _ => true
  | _ => false

/-- The session shows the cursor. In detection that is the pointer or, where nothing is found, the
default one. -/
def Session.Shows (c : Cursor) : Session → Prop
  | .idle => c = .default
  | .detection d => c = .pointer ∨ c = .default ∧ d.selected = none
  | .drawing _ => c = .crosshair
  | .editing _ => True

theorem Session.shows_firstCursor {next : Session} (h : ∀ d, next = .detection d → d = {}) :
    next.Shows next.firstCursor := by
  cases next with
  | detection d =>
    rw [h d rfl]
    exact Or.inr ⟨rfl, rfl⟩
  | idle | drawing d => rfl
  | editing t => trivial

/-- What the cursor is in each mode. -/
theorem Session.Shows.of_mode {c : Cursor} {session : Session} (h : session.Shows c) :
    (session.mode = .draw → c = .crosshair) ∧ (session.mode = .idle → c = .default) ∧
      (session.mode = .detect → c = .pointer ∨ c = .default) := by
  cases session with
  | idle => exact ⟨(by cases ·), fun _ => h, (by cases ·)⟩
  | detection d => exact ⟨(by cases ·), (by cases ·), fun _ => h.imp_right And.left⟩
  | drawing d => exact ⟨fun _ => h, (by cases ·), (by cases ·)⟩
  | editing t => exact ⟨(by cases ·), (by cases ·), (by cases ·)⟩

namespace Scene

variable {s : Scene}

/-- **The cursor fits the session**, but detection may have forgotten what a pointer points at. -/
def CursorFits (s : Scene) : Prop := s.session.Shows s.cursor

/-- The cursor is the pointer, and detection has nothing that it could point at. -/
def Stale (s : Scene) : Prop := s.mode = .detect ∧ s.cursor = .pointer ∧ s.hovered? = none

instance (s : Scene) : Decidable s.Stale :=
  inferInstanceAs (Decidable (s.mode = .detect ∧ s.cursor = .pointer ∧ s.hovered? = none))

theorem mode_ne {session : Session} {m : Mode} (h : s.session = session) (hm : session.mode ≠ m) :
    s.mode ≠ m := by
  rwa [mode, h]

theorem not_stale_of_mode (h : s.mode ≠ .detect) : ¬ s.Stale := fun hs => h hs.1

/-- In detection a pointer points at what was found, or is stale. -/
theorem CursorFits.pointer_iff (h : s.CursorFits) (hmode : s.mode = .detect) :
    s.cursor = .pointer ↔ s.Stale ∨ s.hovered?.isSome = true := by
  unfold CursorFits at h
  cases hs : s.session with
  | detection d =>
    have hfound : s.hovered? = d.selected := by rw [hovered?, hs]
    rw [hs] at h
    rw [Stale, hfound]
    rcases h with hpointer | ⟨hdefault, hnone⟩
    · cases d.selected <;> simp [hmode, hpointer]
    · simp [hdefault, hnone]
  | idle | drawing _ | editing _ =>
    rw [mode, hs] at hmode
    cases hmode

theorem cursorFits_switched {next : Session} (h : ∀ d, next = .detection d → d = {}) :
    (s.switched next).CursorFits := Session.shows_firstCursor h

theorem not_stale_switched (s : Scene) (next : Session) : ¬ (s.switched next).Stale := by
  rintro ⟨-, hpointer, -⟩
  cases next <;> cases hpointer

theorem cursorFits_rested (s : Scene) : s.rested.CursorFits :=
  cursorFits_switched fun _ => eq_of_restingSession

theorem not_stale_rested (s : Scene) : ¬ s.rested.Stale := not_stale_switched s _

/-- Detection may forget what it has found. -/
theorem CursorFits.unhovered {d : Detection} (h : s.CursorFits) (hs : s.session = .detection d) :
    (Session.detection {}).Shows s.cursor := by
  unfold CursorFits at h
  rw [hs] at h
  exact h.imp_right fun hdefault => ⟨hdefault.1, rfl⟩

/-- **What becomes of session and cursor when the list has changed**: both are kept, detection
forgets what it has found, or the scene is rested. Detection is rested only in an idle scene. -/
theorem adjusted_cases (s : Scene) :
    (s.adjusted.session = s.session ∧ s.adjusted.cursor = s.cursor ∧ s.mode ≠ .detect) ∨
    (s.mode = .detect ∧ s.adjusted = { s with session := .detection {} }) ∨
    (s.adjusted = s.rested ∧ (s.mode = .detect → s.rested.mode = .idle)) := by
  unfold adjusted mode
  cases hs : s.session with
  | idle =>
    dsimp only
    split_ifs
    · exact Or.inl ⟨hs, rfl, (by cases ·)⟩
    · exact Or.inr (Or.inr ⟨rfl, (by cases ·)⟩)
  | detection d =>
    dsimp only
    split_ifs with hempty
    · refine Or.inr (Or.inr ⟨rfl, fun _ => ?_⟩)
      rw [rested, restingSession_of_isEmpty hempty]
      rfl
    · exact Or.inr (Or.inl ⟨rfl, rfl⟩)
  | drawing d => exact Or.inl ⟨hs, rfl, (by cases ·)⟩
  | editing t =>
    dsimp only
    split_ifs
    · exact Or.inl ⟨hs, rfl, (by cases ·)⟩
    · exact Or.inr (Or.inr ⟨rfl, (by cases ·)⟩)

theorem CursorFits.adjusted (h : s.CursorFits) : s.adjusted.CursorFits := by
  rcases adjusted_cases s with ⟨hsession, hcursor, -⟩ | ⟨hmode, hfound⟩ | ⟨hrested, -⟩
  · rw [CursorFits, hsession, hcursor]
    exact h
  · obtain ⟨d, hs⟩ := detection_of_mode hmode
    rw [hfound]
    exact h.unhovered hs
  · rw [hrested]
    exact cursorFits_rested s

/-- A changed list leaves a stale pointer behind if there was a pointer and detection goes on. -/
theorem CursorFits.stale_adjusted_iff (h : s.CursorFits) :
    s.adjusted.Stale ↔ s.adjusted.mode = .detect ∧ (s.Stale ∨ s.hovered?.isSome = true) := by
  rcases adjusted_cases s with ⟨hsession, hcursor, hmode⟩ | ⟨hmode, hfound⟩ | ⟨hrested, hidle⟩
  · have hmode : s.adjusted.mode ≠ .detect := by rwa [mode, hsession]
    exact ⟨fun hs => absurd hs.1 hmode, fun hs => absurd hs.1 hmode⟩
  · rw [hfound, ← h.pointer_iff hmode]
    exact ⟨fun hs => ⟨rfl, hs.2.1⟩, fun hs => ⟨rfl, hs.2, rfl⟩⟩
  · rw [hrested]
    refine ⟨fun hs => absurd hs (not_stale_rested s), ?_⟩
    rintro ⟨hdetect, hbefore⟩
    have hmode : s.mode = .detect := hbefore.elim (·.1) mode_of_hovered?
    rw [hidle hmode] at hdetect
    cases hdetect

end Scene

namespace Editor

variable {e : Editor}

/-! ### Operations -/

theorem Operated.cursorFits {s s' : Scene} {request : Request} {reply : Reply}
    (h : Operated s request reply s') (hs : s.CursorFits) : s'.CursorFits := by
  cases h with
  | begun t next begins fresh result =>
    rw [result]
    exact Scene.cursorFits_switched fresh
  | edited store begins edits result =>
    have hshed : { s with store }.shedHighlight.CursorFits := hs
    rw [result]
    exact hshed.adjusted
  | unhighlighted session operation result forgotten =>
    rw [result, forgotten]
    cases hsession : s.session with
    | detection d => exact hs.unhovered hsession
    | idle | drawing _ | editing _ =>
      rw [Scene.CursorFits, hsession] at hs
      exact hs
  | kept highlighted forgets result =>
    rw [result]
    exact hs

/-- **An operation leaves a stale pointer behind** where detection forgets what it has found and
goes on. -/
theorem Operated.stale_iff {s s' : Scene} {request : Request} {reply : Reply}
    (h : Operated s request reply s') (hs : s.CursorFits) :
    s'.Stale ↔ s'.mode = .detect ∧ request.begins reply = false ∧
      (s.Stale ∨ s.hovered?.isSome = true ∧ request.forgets reply = true) := by
  cases h with
  | begun t next begins fresh result =>
    rw [result, begins]
    exact ⟨fun hstale => absurd hstale (Scene.not_stale_switched t next),
      fun hright => by cases hright.2.1⟩
  | edited store begins edits result =>
    have hforgets : request.forgets reply = true := by
      rw [Request.forgets, edits, Bool.or_true]
      rfl
    have hshed : { s with store }.shedHighlight.CursorFits := hs
    rw [result, begins, hforgets]
    refine hshed.stale_adjusted_iff.trans (and_congr_right fun _ => ?_)
    simp only [true_and, and_true]
    exact Iff.rfl
  | unhighlighted session operation result forgotten =>
    by_cases hmode : s.mode = .detect
    · obtain ⟨d, hd⟩ := Scene.detection_of_mode hmode
      rw [hd] at forgotten
      rw [result, forgotten, operation, Scene.Stale]
      refine and_congr_right fun _ => ?_
      have hbegins : Request.unhighlight.begins reply = false := rfl
      have hforgets : Request.unhighlight.forgets reply = true := rfl
      simp only [hbegins, hforgets, true_and, and_true, ← hs.pointer_iff hmode]
      exact and_iff_left rfl
    · have hmode' : s'.mode ≠ .detect := by
        rw [result, forgotten]
        unfold Scene.mode at hmode ⊢
        cases hsession : s.session with
        | detection d =>
          rw [hsession] at hmode
          exact absurd rfl hmode
        | idle | drawing _ | editing _ => exact (by cases ·)
      exact ⟨fun h => absurd h.1 hmode', fun h => absurd h.1 hmode'⟩
  | kept highlighted forgets result =>
    have hbegins : request.begins reply = false := by
      rw [Request.forgets, Bool.or_eq_false_iff, Bool.or_eq_false_iff] at forgets
      exact forgets.1.1
    rw [result, forgets, hbegins]
    constructor
    · exact fun hstale => ⟨hstale.1, rfl, Or.inl hstale⟩
    · rintro ⟨-, -, hstale | ⟨-, hforgets⟩⟩
      · exact hstale
      · cases hforgets

/-! ### Events -/

/-- **What an event does to the cursor.** It fits the session if it did so before, what is stale
stays so until the pointer moves, and the host is told of the cursor, once, just when it is another
one. -/
structure Steered (s : Scene) (event : Event) (x : Scene × List Action) : Prop where
  fits : s.CursorFits → x.1.CursorFits
  stale : x.1.Stale ↔ (Request.event event).isMove = false ∧ s.Stale
  told : x.2.filter Action.isCursor = s.cursor.change x.1.cursor

/-- An event without effect. -/
theorem Steered.quiet (s : Scene) {event : Event}
    (h : s.Stale → (Request.event event).isMove = false) : Steered s event (s, []) :=
  ⟨id, ⟨fun hs => ⟨h hs, hs⟩, And.right⟩, by rw [Cursor.change_self]; rfl⟩

/-- An event by which a session other than detection ends. -/
theorem steered_switched (s t : Scene) {event : Event} {next : Session} {actions : List Action}
    (hfresh : ∀ d, next = .detection d → d = {}) (hmode : s.mode ≠ .detect)
    (htold : actions.filter Action.isCursor = s.cursor.change next.firstCursor) :
    Steered s event (t.switched next, actions) where
  fits _ := Scene.cursorFits_switched hfresh
  stale := iff_of_false (Scene.not_stale_switched t next) fun h => hmode h.2.1
  told := htold

theorem steered_rested {s : Scene} {event : Event} {actions : List Action}
    (hmode : s.mode ≠ .detect)
    (htold : actions.filter Action.isCursor = s.cursor.change .default) :
    Steered s event (s.rested, actions) := by
  refine steered_switched s s (fun _ => Scene.eq_of_restingSession) hmode ?_
  rw [Scene.firstCursor_restingSession]
  exact htold

theorem filter_change (c d : Cursor) : (c.change d).filter Action.isCursor = c.change d := by
  unfold Cursor.change
  split_ifs <;> rfl

/-- An action that tells of the shape that was found does not tell of the cursor. -/
theorem filter_found {f : Nat → Identifier → Action} (hf : ∀ i id, (f i id).isCursor = false)
    (s : Store Float) (found : Option Nat) :
    (found.bind fun i => (s.get? i).map fun shape => f i shape.id).toList.filter
      Action.isCursor = [] := by
  rw [List.filter_eq_nil_iff]
  intro action h
  obtain ⟨i, -, hi⟩ := Option.bind_eq_some_iff.mp (Option.mem_toList.mp h)
  obtain ⟨shape, -, rfl⟩ := Option.map_eq_some_iff.mp hi
  rw [hf]
  exact Bool.false_ne_true

theorem steered_detected {s : Scene} {d : Detection} (v : Viewport Float) (event : Event) :
    Steered s event (detected s v d event) := by
  cases event with
  | move pixel =>
    refine ⟨fun _ => ?_, iff_of_false ?_ (fun h => by cases h.1), ?_⟩
    · show Session.Shows (if Option.isSome _ then .pointer else .default) (.detection ⟨_⟩)
      split_ifs with hfound
      · exact Or.inl rfl
      · exact Or.inr ⟨rfl, Option.not_isSome_iff_eq_none.mp hfound⟩
    · rintro ⟨-, hpointer, hnone⟩
      have hfound : Detection.shapeAt? s.store.shapes (v.toRelative pixel) v = none := hnone
      simp [detected, hfound] at hpointer
    · rw [detected, List.filter_append, filter_change, hovered, filter_found fun _ _ => rfl,
        List.append_nil]
  | click pixel =>
    refine ⟨id, (and_iff_right rfl).symm, ?_⟩
    rw [detected, selected, filter_found fun _ _ => rfl, Cursor.change_self]
  | down _ _ | up _ _ | doubleClick _ => exact .quiet s fun _ => rfl

theorem steered_drawn {s : Scene} {d : Drawing Float} (hs : s.session = .drawing d)
    (event : Event) (x : DrawingStep Float × Drawing Float) : Steered s event (drawn s x) := by
  have hmode : s.mode ≠ .detect := Scene.mode_ne hs (by cases ·)
  cases drawn_cases s x with
  | goesOn d' ids hy =>
    rw [hy]
    have hstale : ¬ Scene.Stale { s with session := .drawing d', ids } :=
      Scene.not_stale_of_mode (by cases ·)
    refine ⟨fun h => ?_, iff_of_false hstale fun h => hmode h.2.1, ?_⟩
    · rw [Scene.CursorFits, hs] at h
      exact h
    · rw [Cursor.change_self]
      rfl
  | finished shape ids hy =>
    rw [hy]
    exact steered_switched s _ (fun _ h => (Session.detection.inj h).symm) hmode (filter_change _ _)

theorem steered_edited {s : Scene} {t : Editing Float} (hs : s.session = .editing t)
    (event : Event) (i : Nat) (shape : Shape Float) (x : Option Editing.Response) :
    Steered s event (edited s i shape x) := by
  have hmode : s.mode ≠ .detect := Scene.mode_ne hs (by cases ·)
  cases x with
  | none => exact steered_rested hmode (filter_change _ _)
  | some r =>
    have hstale : ¬ (edited s i shape (some r)).1.Stale := Scene.not_stale_of_mode (by cases ·)
    refine ⟨fun _ => trivial, iff_of_false hstale fun h => hmode h.2.1, ?_⟩
    rw [edited, List.filter_append, filter_change]
    cases r.reported <;> rfl

/-- **Every event keeps the cursor to the session**, and the host is told when it is another one. -/
theorem steered_handle (e : Editor) (event : Event) :
    Steered e.toScene event (outcome (e.handle event)) := by
  have hquiet : e.mode ≠ .detect → Steered e.toScene event (e.toScene, []) :=
    fun hmode => .quiet e.toScene fun h => absurd h.1 hmode
  cases handled e event with
  | idle hs hx =>
    rw [hx]
    exact hquiet (Scene.mode_ne hs (by cases ·))
  | detection d _ hx =>
    rw [hx]
    exact steered_detected _ event
  | drawing d hs hx =>
    rw [hx]
    exact steered_drawn hs event _
  | editing t i shape hs _ hx =>
    rw [hx]
    exact steered_edited hs event i shape _
  | lost t hs _ hx =>
    rcases hx with hx | hx <;> rw [hx]
    · exact steered_rested (Scene.mode_ne hs (by cases ·)) (filter_change _ _)
    · exact hquiet (Scene.mode_ne hs (by cases ·))

/-! ### Runs -/

theorem cursorFits_perform (h : e.CursorFits) (request : Request) :
    (e.perform request).1.CursorFits := by
  by_cases hevent : request.isEvent = true
  · obtain ⟨event, rfl⟩ := Request.eq_event hevent
    exact (steered_handle e event).fits h
  · rw [Bool.not_eq_true] at hevent
    exact (operated e hevent).cursorFits h

/-- **When a pointer is left behind.** Detection forgets what it has found, or the pointer was left
behind before, and detection goes on without a move. -/
theorem stale_perform_iff (h : e.CursorFits) (request : Request) :
    (e.perform request).1.Stale ↔ (e.perform request).1.mode = .detect ∧ request.isMove = false ∧
      request.begins (e.perform request).2 = false ∧
      (e.Stale ∨ e.hovered?.isSome = true ∧ request.forgets (e.perform request).2 = true) := by
  by_cases hevent : request.isEvent = true
  · obtain ⟨event, rfl⟩ := Request.eq_event hevent
    refine (steered_handle e event).stale.trans ⟨fun hs => ?_, fun hs => ?_⟩
    · have hstale : (e.perform (.event event)).1.Stale := (steered_handle e event).stale.mpr hs
      exact ⟨hstale.1, hs.1, rfl, Or.inl hs.2⟩
    · obtain ⟨-, hmove, -, hstale | ⟨-, hforgets⟩⟩ := hs
      · exact ⟨hmove, hstale⟩
      · cases hforgets
  · rw [Bool.not_eq_true] at hevent
    have hmove : request.isMove = false := Request.isMove_of_isEvent hevent
    rw [hmove]
    exact ((operated e hevent).stale_iff h).trans
      (and_congr_right fun _ => (and_iff_right rfl).symm)

theorem cursorFits_run (background foreground : Surface Float) (theme : Theme) (ids : IdSupply)
    (requests : List Request) :
    ((start background foreground theme ids).run requests).1.CursorFits := by
  have hstart : (start background foreground theme ids).CursorFits := rfl
  exact run_keeps (P := fun e => e.CursorFits) (fun _ r h => cursorFits_perform h r) hstart requests

/-- The cursor that detection has to show for what it has found. -/
def detectionCursor (found : Option Nat) : Cursor := if found.isSome then .pointer else .default

/-- **The cursor reflects the session.** -/
structure ReflectsSession (e : Editor) : Prop where
  draw : e.mode = .draw → e.cursor = .crosshair
  idle : e.mode = .idle → e.cursor = .default
  detect : e.mode = .detect → e.cursor = detectionCursor e.hovered?

/-- A cursor that fits the session reflects it unless a pointer was left behind. -/
theorem reflectsSession_iff (h : e.CursorFits) : ReflectsSession e ↔ ¬ e.Stale := by
  obtain ⟨hdraw, hidle, hdetect⟩ := Session.Shows.of_mode h
  constructor
  · rintro hreflects ⟨hmode, hpointer, hnone⟩
    have hcursor := hreflects.detect hmode
    rw [hpointer, hnone] at hcursor
    cases hcursor
  · intro hstale
    refine ⟨hdraw, hidle, fun hmode => ?_⟩
    have hpointer : e.cursor = .pointer ↔ e.hovered?.isSome = true :=
      (h.pointer_iff hmode).trans (or_iff_right hstale)
    unfold detectionCursor
    split_ifs with hfound
    · exact hpointer.mpr hfound
    · exact (hdetect hmode).resolve_left (mt hpointer.mp hfound)

/-- **The cursor reflects the session after every run unless a pointer was left behind**, which
happens where detection forgets what it has found and goes on; it lasts until the pointer moves or
a session begins. Every event tells the host of the cursor, once, just when it is another one. -/
theorem cursor_reflects_session (background foreground : Surface Float) (theme : Theme)
    (ids : IdSupply) (requests : List Request) :
    let e := ((start background foreground theme ids).run requests).1
    (ReflectsSession e ↔ ¬ e.Stale) ∧
    (∀ request, (e.perform request).1.Stale ↔ (e.perform request).1.mode = .detect ∧
      request.isMove = false ∧ request.begins (e.perform request).2 = false ∧
      (e.Stale ∨ e.hovered?.isSome = true ∧ request.forgets (e.perform request).2 = true)) ∧
    ∀ event, (e.handle event).2.filter Action.isCursor =
      e.cursor.change (e.handle event).1.cursor := by
  intro e
  have hfits : e.CursorFits := cursorFits_run background foreground theme ids requests
  exact ⟨reflectsSession_iff hfits, stale_perform_iff hfits, fun event =>
    (steered_handle e event).told⟩

/-- The highlights are dropped while a shape is hovered. -/
theorem cursor_left_by_unhighlight :
    ¬ ReflectsSession ((start { viewport := ⟨100, 100⟩ } { viewport := ⟨100, 100⟩ } {}
      { source := fun _ => .nil }).run
        [.addShape { id := ⟨1⟩, geometry := .rectangle ⟨0.25, 0.25⟩ ⟨0.5, 0.5⟩ },
          .event (.move ⟨37.5, 37.5⟩), .unhighlight]).1 := by
  intro h
  exact absurd (h.detect (by decide +kernel)) (by decide +kernel)

end Editor

end ShapeOverlay
