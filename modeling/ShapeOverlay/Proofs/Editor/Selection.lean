import ShapeOverlay.Proofs.Editor.Consistency
import ShapeOverlay.Proofs.Editor.Interruption

/-! # A click selects the shape that was hovered last

Detection remembers the shape that the latest move has found. In the log of a run this is the shape
of the latest move, unless the list was changed, a session was begun or the highlights were dropped
since (`LastHovered`). What detection remembers and what the log tells agree after every run
(`hovers_iff_lastHovered`), and so a click selects just the shape that the host was told of last
(`click_selects_hovered`). -/

namespace ShapeOverlay

/-! ### Scenes -/

namespace Scene

variable {s t : Scene} {i : Nat} {id : Identifier}

/-- Detection has found the shape at a place, which has an identity. -/
def Hovers (s : Scene) (i : Nat) (id : Identifier) : Prop :=
  s.hovered? = some i ∧ ∃ shape, s.store.get? i = some shape ∧ shape.id = id

theorem hovers_congr (hsession : t.session = s.session) (hstore : t.store = s.store) :
    t.Hovers i id ↔ s.Hovers i id := by
  simp only [Hovers, hovered?, hsession, hstore]

/-- The session of a scene in detection. -/
theorem detection_of_mode (h : s.mode = .detect) : ∃ d, s.session = .detection d := by
  unfold mode at h
  cases hs : s.session with
  | detection d => exact ⟨d, rfl⟩
  | idle | drawing _ | editing _ =>
    rw [hs] at h
    cases h

/-- Only detection has found a shape. -/
theorem mode_of_hovered? (h : s.hovered?.isSome = true) : s.mode = .detect := by
  unfold hovered? at h
  unfold mode
  cases hs : s.session with
  | detection d => rfl
  | idle | drawing _ | editing _ =>
    rw [hs] at h
    cases h

theorem not_hovers_of_hovered? (h : s.hovered? = none) : ¬ s.Hovers i id := by
  rintro ⟨hi, -⟩
  rw [h] at hi
  cases hi

theorem hovered?_switched {next : Session} (h : ∀ d, next = .detection d → d = {}) :
    (s.switched next).hovered? = none := by
  unfold hovered? switched
  cases next with
  | detection d =>
    rw [h d rfl]
  | idle | drawing _ | editing _ => rfl

theorem hovered?_rested (s : Scene) : s.rested.hovered? = none :=
  hovered?_switched fun _ => eq_of_restingSession

/-- When the list has changed, detection has found nothing. -/
theorem hovered?_settled (s : Scene) : s.settled.hovered? = none := by
  unfold settled adjusted
  cases hs : s.shedHighlight.session with
  | idle =>
    dsimp only
    split_ifs
    · simp only [hovered?, hs]
    · exact hovered?_rested _
  | detection d =>
    dsimp only
    split_ifs
    · exact hovered?_rested _
    · rfl
  | drawing d => simp only [hovered?, hs]
  | editing t =>
    dsimp only
    split_ifs
    · simp only [hovered?, hs]
    · exact hovered?_rested _

end Scene

namespace Editor

variable {e : Editor} {i : Nat} {id : Identifier}

/-! ### Operations -/

/-- Operations leave what detection has found alone unless it is forgotten. -/
theorem Operated.hovers_iff {s s' : Scene} {request : Request} {reply : Reply}
    (h : Operated s request reply s') :
    s'.Hovers i id ↔ request.forgets reply = false ∧ s.Hovers i id := by
  have hforgotten : request.forgets reply = true → s'.hovered? = none →
      (s'.Hovers i id ↔ request.forgets reply = false ∧ s.Hovers i id) := by
    intro hforgets hnone
    rw [hforgets]
    exact ⟨fun hs => absurd hs (Scene.not_hovers_of_hovered? hnone), fun hs => by cases hs.1⟩
  cases h with
  | begun t next begins fresh result =>
    refine hforgotten (by rw [Request.forgets, begins]; rfl) ?_
    rw [result]
    exact Scene.hovered?_switched fresh
  | edited store _ edits result =>
    refine hforgotten (by rw [Request.forgets, edits, Bool.or_true]; rfl) ?_
    rw [result]
    exact Scene.hovered?_settled _
  | unhighlighted session operation result forgotten =>
    refine hforgotten (by rw [operation]; rfl) ?_
    rw [result]
    show Scene.hovered? { s with highlighted := none, session } = none
    rw [forgotten]
    unfold Scene.hovered?
    cases s.session <;> rfl
  | kept highlighted forgets result =>
    rw [forgets, result]
    exact (Scene.hovers_congr rfl rfl).trans (and_iff_right rfl).symm

/-! ### Events -/

/-- The action for the shape that was found tells of its place and of its identity. -/
theorem found_eq_some_iff {f : Nat → Identifier → Action} (hf : Function.Injective2 f)
    {s : Store Float} {found : Option Nat} :
    (found.bind fun j => (s.get? j).map fun shape => f j shape.id) = some (f i id) ↔
      found = some i ∧ ∃ shape, s.get? i = some shape ∧ shape.id = id := by
  rw [Option.bind_eq_some_iff]
  constructor
  · rintro ⟨j, hj, hmap⟩
    obtain ⟨shape, hshape, heq⟩ := Option.map_eq_some_iff.mp hmap
    obtain ⟨rfl, hid⟩ := hf heq
    exact ⟨hj, shape, hshape, hid⟩
  · rintro ⟨hi, shape, hshape, rfl⟩
    exact ⟨i, hi, Option.map_eq_some_iff.mpr ⟨shape, hshape, rfl⟩⟩

theorem mem_hovered_iff {s : Store Float} {found : Option Nat} :
    .hovered i id ∈ hovered s found ↔
      found = some i ∧ ∃ shape, s.get? i = some shape ∧ shape.id = id := by
  rw [hovered, Option.mem_toList]
  exact found_eq_some_iff fun _ _ _ _ h => Action.hovered.inj h

theorem mem_selected_iff {s : Store Float} {found : Option Nat} :
    .selected i id ∈ selected s found ↔
      found = some i ∧ ∃ shape, s.get? i = some shape ∧ shape.id = id := by
  rw [selected, Option.mem_toList]
  exact found_eq_some_iff fun _ _ _ _ h => Action.selected.inj h

theorem selected_eq_iff {s : Store Float} {found : Option Nat} :
    selected s found = [.selected i id] ↔
      found = some i ∧ ∃ shape, s.get? i = some shape ∧ shape.id = id := by
  rw [selected, Option.toList_eq_singleton_iff]
  exact found_eq_some_iff fun _ _ _ _ h => Action.selected.inj h

theorem not_mem_change_of_hovered {c d : Cursor} : Action.hovered i id ∉ c.change d :=
  fun h => by cases Cursor.eq_of_mem_change h

/-- Outside of detection no event finds a shape. -/
theorem hovered?_handle (hmode : e.mode ≠ .detect) (event : Event) :
    (outcome (e.handle event)).1.hovered? = none := by
  unfold Scene.mode at hmode
  cases handled e event with
  | idle hs hx =>
    rw [hx]
    simp only [Scene.hovered?, hs]
  | detection d hs _ =>
    rw [hs] at hmode
    exact absurd rfl hmode
  | drawing d _ hx =>
    rw [hx]
    cases drawn_cases e.toScene (d.respond e.foreground.viewport e.ids.next event) with
    | goesOn d' ids hy => rw [hy]; rfl
    | finished shape ids hy => rw [hy]; rfl
  | editing t i shape _ _ hx =>
    rw [hx]
    cases t.respond shape.geometry e.foreground.viewport e.theme.handleRadius e.cursor event with
    | none => exact Scene.hovered?_rested _
    | some r => rfl
  | lost t hs _ hx =>
    rcases hx with hx | hx <;> rw [hx]
    · exact Scene.hovered?_rested _
    · simp only [Scene.hovered?, hs]

/-- **A move tells of the shape that it has found.** -/
theorem hovers_move_iff (e : Editor) (pixel : Point Float) :
    (outcome (e.handle (.move pixel))).1.Hovers i id ↔
      .hovered i id ∈ (outcome (e.handle (.move pixel))).2 := by
  by_cases hmode : e.mode = .detect
  · obtain ⟨d, hs⟩ := Scene.detection_of_mode hmode
    rw [outcome_handle_detection hs]
    simp only [detected, List.mem_append, not_mem_change_of_hovered, false_or, mem_hovered_iff]
    exact Iff.rfl
  · constructor
    · exact fun h => absurd h (Scene.not_hovers_of_hovered? (hovered?_handle hmode _))
    · exact fun h => absurd (befits_handle e h) hmode

/-- The other events leave what detection has found alone. -/
theorem hovers_event_iff (e : Editor) {event : Event} (h : (Request.event event).isMove = false) :
    (outcome (e.handle event)).1.Hovers i id ↔ e.Hovers i id := by
  by_cases hmode : e.mode = .detect
  · obtain ⟨d, hs⟩ := Scene.detection_of_mode hmode
    rw [outcome_handle_detection hs]
    cases event with
    | move pixel => cases h
    | down _ _ | up _ _ | click _ | doubleClick _ => exact Iff.rfl
  · have hnone : e.hovered? = none := by
      by_contra hsome
      exact hmode (Scene.mode_of_hovered? (Option.isSome_iff_ne_none.mpr hsome))
    exact ⟨fun hs => absurd hs (Scene.not_hovers_of_hovered? (hovered?_handle hmode _)),
      fun hs => absurd hs (Scene.not_hovers_of_hovered? hnone)⟩

/-- **What a click selects.** -/
theorem selected_mem_click_iff (e : Editor) (pixel : Point Float) :
    .selected i id ∈ (outcome (e.handle (.click pixel))).2 ↔ e.Hovers i id := by
  have hmode : .selected i id ∈ (outcome (e.handle (.click pixel))).2 → e.mode = .detect :=
    fun h => befits_handle e h
  by_cases hdetect : e.mode = .detect
  · obtain ⟨d, hs⟩ := Scene.detection_of_mode hdetect
    rw [outcome_handle_detection hs]
    simp only [detected, mem_selected_iff, Scene.Hovers, Scene.hovered?, hs]
  · have hnot : ¬ e.Hovers i id := by
      rintro ⟨hi, -⟩
      exact hdetect (Scene.mode_of_hovered? (by rw [hi]; rfl))
    exact ⟨fun h => absurd (hmode h) hdetect, fun h => absurd h hnot⟩

theorem handle_click_of_hovers (h : e.Hovers i id) (pixel : Point Float) :
    (outcome (e.handle (.click pixel))).2 = [.selected i id] := by
  have hfound := h.1
  unfold Scene.hovered? at hfound
  split at hfound
  · next d hs =>
    rw [outcome_handle_detection hs]
    exact selected_eq_iff.mpr ⟨hfound, h.2⟩
  · cases hfound

/-! ### Runs -/

/-- **The latest move of a log has hovered a shape**, and detection has not forgotten it since. -/
def LastHovered (log : List (Request × Reply)) (i : Nat) (id : Identifier) : Prop :=
  ∃ before pixel actions after,
    log = before ++ (.event (.move pixel), .actions actions) :: after ∧ .hovered i id ∈ actions ∧
      ∀ x ∈ after, x.1.isMove = false ∧ x.1.forgets x.2 = false

theorem not_lastHovered_nil : ¬ LastHovered [] i id := by
  rintro ⟨before, pixel, actions, after, hlog, -⟩
  simp at hlog

/-- What a log tells is decided by its last request if that is a move or forgets, and otherwise by
the rest of the log. -/
theorem lastHovered_append {log : List (Request × Reply)} {request : Request} {reply : Reply} :
    LastHovered (log ++ [(request, reply)]) i id ↔
      (∃ pixel actions, request = .event (.move pixel) ∧ reply = .actions actions ∧
        .hovered i id ∈ actions) ∨
      (request.isMove = false ∧ request.forgets reply = false ∧ LastHovered log i id) := by
  constructor
  · rintro ⟨before, pixel, actions, after, hlog, hactions, hafter⟩
    obtain rfl | ⟨init, last, rfl⟩ := after.eq_nil_or_concat
    · obtain ⟨-, hlast⟩ := List.append_inj' hlog rfl
      cases hlast
      exact Or.inl ⟨pixel, actions, rfl, rfl, hactions⟩
    · rw [List.concat_eq_append, ← List.cons_append, ← List.append_assoc] at hlog
      obtain ⟨hinit, hlast⟩ := List.append_inj' hlog rfl
      cases hlast
      obtain ⟨hmove, hforgets⟩ := hafter (request, reply) (by simp)
      refine Or.inr ⟨hmove, hforgets, before, pixel, actions, init, hinit, hactions, ?_⟩
      exact fun x hx => hafter x (by simp [hx])
  · rintro (⟨pixel, actions, rfl, rfl, hactions⟩ |
      ⟨hmove, hforgets, before, pixel, actions, after, rfl, hactions, hafter⟩)
    · exact ⟨log, pixel, actions, [], rfl, hactions, fun x hx => by cases hx⟩
    · refine ⟨before, pixel, actions, after ++ [(request, reply)], by simp, hactions, ?_⟩
      intro x hx
      rcases List.mem_append.mp hx with hx | hx
      · exact hafter x hx
      · rw [List.mem_singleton.mp hx]
        exact ⟨hmove, hforgets⟩

/-- One more request keeps what detection has found and what the log tells in agreement. -/
theorem hovers_iff_lastHovered_append {log : List (Request × Reply)}
    (h : ∀ i id, e.Hovers i id ↔ LastHovered log i id) (request : Request) (i : Nat)
    (id : Identifier) : (e.perform request).1.Hovers i id ↔
      LastHovered (log ++ [(request, (e.perform request).2)]) i id := by
  rw [lastHovered_append, ← h]
  by_cases hevent : request.isEvent = true
  · obtain ⟨event, rfl⟩ := Request.eq_event hevent
    by_cases hmove : (Request.event event).isMove = true
    · cases event with
      | move pixel =>
        refine (hovers_move_iff e pixel).trans ⟨fun hmem => ?_, ?_⟩
        · exact Or.inl ⟨pixel, _, rfl, rfl, hmem⟩
        · rintro (⟨pixel', actions, hpixel, hactions, hmem⟩ | ⟨hnot, -⟩)
          · cases hactions
            exact hmem
          · cases hnot
      | down _ _ | up _ _ | click _ | doubleClick _ => cases hmove
    · rw [Bool.not_eq_true] at hmove
      refine (hovers_event_iff e hmove).trans ⟨fun hs => Or.inr ⟨hmove, rfl, hs⟩, ?_⟩
      rintro (⟨pixel, actions, hpixel, -⟩ | ⟨-, -, hs⟩)
      · rw [hpixel] at hmove
        cases hmove
      · exact hs
  · rw [Bool.not_eq_true] at hevent
    have hmove : request.isMove = false := Request.isMove_of_isEvent hevent
    refine (operated e hevent).hovers_iff.trans ⟨fun hs => Or.inr ⟨hmove, hs⟩, ?_⟩
    rintro (⟨pixel, actions, hpixel, -⟩ | ⟨-, hs⟩)
    · rw [hpixel] at hevent
      cases hevent
    · exact hs

/-- **What detection remembers and what the log tells agree after every run.** -/
theorem hovers_iff_lastHovered (background foreground : Surface Float) (theme : Theme)
    (ids : IdSupply) (requests : List Request) (i : Nat) (id : Identifier) :
    ((start background foreground theme ids).run requests).1.Hovers i id ↔
      LastHovered ((start background foreground theme ids).log requests) i id := by
  have hstart : ∀ i id, (start background foreground theme ids).Hovers i id ↔
      LastHovered [] i id := fun i id =>
    ⟨fun h => absurd h (Scene.not_hovers_of_hovered? rfl), fun h => absurd h not_lastHovered_nil⟩
  exact log_induction (P := fun e log => ∀ i id, e.Hovers i id ↔ LastHovered log i id)
    (fun _ _ request h => hovers_iff_lastHovered_append h request) requests hstart i id

/-- **A click selects the shape that the latest move has hovered**, wherever it lands. In every run,
a click that selects a shape comes after a move that hovered this shape, with no other move between
them, and nothing by which detection would have forgotten it; and the shape is still there and
active. Conversely, after such a move a click selects the shape, and nothing else happens. -/
theorem click_selects_hovered (background foreground : Surface Float) (theme : Theme)
    (ids : IdSupply) (requests : List Request) (pixel : Point Float) (i : Nat) (id : Identifier) :
    let e := ((start background foreground theme ids).run requests).1
    let log := (start background foreground theme ids).log requests
    (.selected i id ∈ (e.handle (.click pixel)).2 → LastHovered log i id ∧
      ∃ shape, e.store.get? i = some shape ∧ shape.isActive = true ∧ shape.id = id) ∧
    (LastHovered log i id → (e.handle (.click pixel)).2 = [.selected i id]) := by
  intro e log
  have hlog : e.Hovers i id ↔ LastHovered log i id :=
    hovers_iff_lastHovered background foreground theme ids requests i id
  constructor
  · intro h
    have hhovers : e.Hovers i id := (selected_mem_click_iff e pixel).mp h
    have hlast := hlog.mp hhovers
    obtain ⟨hfound, shape, hshape, hid⟩ := hhovers
    have hconsistent : e.Consistent := consistent_run background foreground theme ids requests
    obtain ⟨-, active, hactive, hisActive⟩ := (modeFits_of_consistent hconsistent).hovered i hfound
    rw [hshape] at hactive
    cases hactive
    exact ⟨hlast, shape, hshape, hisActive, hid⟩
  · intro h
    exact handle_click_of_hovers (hlog.mpr h) pixel

/-- A shape is hovered, the surfaces get another size, and a click beside the shape selects it. -/
example : (((start { viewport := ⟨100, 100⟩ } { viewport := ⟨100, 100⟩ } {}
      { source := fun _ => .nil }).run
        [.addShape { id := ⟨1⟩, geometry := .rectangle ⟨0, 0⟩ ⟨0.5, 0.5⟩ },
          .event (.move ⟨25, 25⟩), .resize ⟨10, 10⟩, .highlight 0]).1.handle
        (.click ⟨90, 90⟩)).2 matches [.selected 0 _] := by
  decide +kernel

end Editor

end ShapeOverlay
